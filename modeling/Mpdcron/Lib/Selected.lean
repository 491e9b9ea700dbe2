import Mathlib.Data.List.Forall2
import Mathlib.Data.List.Perm.Basic
import Mpdcron.Lib.Keyed

/-! Updates of the rows of a keyed table that a condition selects. -/

namespace Keyed

variable {κ α : Type}

/-- A selected row becomes what `change` makes of it, where it says so; another one stays. Neither
gets a new id or key. -/
structure Row.Becomes (selected : Int → Bool) (change : Row κ α → Option (Row κ α))
    (row next : Row κ α) : Prop where
  id : next.id = row.id
  key : next.key = row.key
  changed : selected row.id = true → ∀ value, change row = some value → next = value
  kept : selected row.id = false → next = row

/-- The rows keep their places. -/
def Table.Becomes (selected : Int → Bool) (change : Row κ α → Option (Row κ α))
    (table next : Table κ α) : Prop :=
  List.Forall₂ (Row.Becomes selected change) table.rows next.rows

/-- The rows of which a condition is true. -/
def Table.select (selected : Int → Bool) (table : Table κ α) : List (Row κ α) :=
  table.rows.filter fun row => selected row.id

variable {selected : Int → Bool} {change : Row κ α → Option (Row κ α)}
  {table next : Table κ α}

theorem Table.Becomes.mem (becomes : table.Becomes selected change next) {row : Row κ α}
    (member : row ∈ table.rows) :
    ∃ other ∈ next.rows, row.Becomes selected change other := by
  rw [Table.Becomes] at becomes
  generalize table.rows = rows at becomes member
  generalize next.rows = nextRows at becomes ⊢
  induction becomes with
  | nil => cases member
  | cons head _ ih =>
      rcases List.mem_cons.mp member with rfl | later
      · exact ⟨_, List.mem_cons_self, head⟩
      · rcases ih later with ⟨other, inNext, row⟩
        exact ⟨other, List.mem_cons_of_mem _ inNext, row⟩

theorem Table.Becomes.skeleton (becomes : table.Becomes selected change next) :
    next.skeleton = table.skeleton := by
  rw [Table.Becomes] at becomes
  rw [Table.skeleton, Table.skeleton]
  generalize table.rows = rows at becomes ⊢
  generalize next.rows = nextRows at becomes ⊢
  induction becomes with
  | nil => rfl
  | cons head _ ih => rw [List.map_cons, List.map_cons, head.id, head.key, ih]

theorem Table.select_length (table : Table κ α) (selected : Int → Bool) :
    (table.select selected).length = (table.skeleton.map Prod.fst).countP selected := by
  rw [Table.select, Table.skeleton, List.map_map, List.countP_map, List.countP_eq_length_filter]
  rfl

/-- The ids stay, and so does the number of rows that a condition on them selects. -/
theorem Table.Becomes.select_length (becomes : table.Becomes selected change next)
    (other : Int → Bool) : (next.select other).length = (table.select other).length := by
  rw [next.select_length, table.select_length, becomes.skeleton]

theorem Table.select_id (table : Table κ α) (id : Int) :
    (table.select (· = id)).length = (table.rows.map Row.id).count id := by
  rw [Table.select, List.count, List.countP_map, List.countP_eq_length_filter]
  rfl

/-- An id is the id of one row or of none. -/
theorem Table.select_id_le (table : Table κ α) (id : Int) : (table.select (· = id)).length ≤ 1 := by
  rw [table.select_id]
  exact List.nodup_iff_count_le_one.mp table.distinct id

theorem Table.select_id_mem (table : Table κ α) (row : Row κ α) (member : row ∈ table.rows) :
    (table.select (· = row.id)).length = 1 := by
  rw [table.select_id]
  exact List.count_eq_one_of_mem table.distinct (List.mem_map_of_mem member)

theorem Table.becomes_self (table : Table κ α) (change : Row κ α → Option (Row κ α))
    (none : ∀ row ∈ table.rows, selected row.id = false) : table.Becomes selected change table := by
  rw [Table.Becomes, List.forall₂_same]
  intro row member
  exact ⟨rfl, rfl, fun chosen => by simp [none row member] at chosen, fun _ => rfl⟩

/-- Two updates one after the other, by what they make of each row. -/
theorem Table.Becomes.trans {middle : Table κ α} {later both : Int → Bool}
    {laterChange bothChange : Row κ α → Option (Row κ α)}
    (first : table.Becomes selected change middle) (second : middle.Becomes later laterChange next)
    (combine : ∀ row ∈ table.rows, ∀ between last, row.Becomes selected change between →
      between.Becomes later laterChange last → row.Becomes both bothChange last) :
    table.Becomes both bothChange next := by
  rw [Table.Becomes] at first second ⊢
  generalize table.rows = rows at first combine ⊢
  generalize middle.rows = middleRows at first second
  generalize next.rows = nextRows at second ⊢
  induction first generalizing nextRows with
  | nil =>
      cases second
      exact .nil
  | cons head _ ih =>
      cases second with
      | cons laterHead rest =>
          exact .cons (combine _ List.mem_cons_self _ _ head laterHead)
            (ih (fun row member => combine row (List.mem_cons_of_mem _ member)) _ rest)

/-- The same update, by what it makes of each row. -/
theorem Table.Becomes.imp {other : Int → Bool} {otherChange : Row κ α → Option (Row κ α)}
    (becomes : table.Becomes selected change next)
    (weaken : ∀ row ∈ table.rows, ∀ last, row.Becomes selected change last →
      row.Becomes other otherChange last) : table.Becomes other otherChange next := by
  have still : next.Becomes (fun _ => false) change next :=
    next.becomes_self change fun _ _ => rfl
  refine becomes.trans still ?_
  intro row member between last first second
  rw [second.kept rfl]
  exact weaken row member between first

/-- A list that has the same members as the image of another one is the image of an order of it. -/
theorem exists_perm_of_map {β : Type} (image : α → β) {list : List β} {rows : List α}
    (same : list.Perm (rows.map image)) : ∃ order : List α, order.Perm rows ∧ list = order.map image := by
  have images : List.Forall₂ (fun value row => value = image row) (rows.map image) rows := by
    rw [List.forall₂_map_left_iff]
    exact List.forall₂_same.mpr fun _ _ => rfl
  rcases List.perm_comp_forall₂ same images with ⟨order, ordered, perm⟩
  refine ⟨order, perm, ?_⟩
  have pointwise : List.Forall₂ (· = ·) list (order.map image) :=
    List.forall₂_map_right_iff.mpr ordered
  rwa [List.forall₂_eq_eq_eq] at pointwise

section Find

variable [DecidableEq κ]

theorem Table.Becomes.find (becomes : table.Becomes selected change next) {key : κ} {row : Row κ α}
    (found : table.find key = some row) :
    ∃ other, next.find key = some other ∧ row.Becomes selected change other := by
  rcases Table.find_eq_some.mp found with ⟨member, keyed⟩
  rcases becomes.mem member with ⟨other, inNext, row⟩
  exact ⟨other, Table.find_eq_some.mpr ⟨inNext, row.key.trans keyed⟩, row⟩

theorem Table.Becomes.find_none (becomes : table.Becomes selected change next) {key : κ}
    (absent : table.find key = none) : next.find key = none := by
  rw [Table.find_eq_none, Table.keys_eq] at absent ⊢
  rwa [becomes.skeleton]

end Find

/-- Rows that a function changes, with their ids and keys as they are. -/
def Table.mapRows (table : Table κ α) (change : Row κ α → Row κ α)
    (id : ∀ row, (change row).id = row.id) (key : ∀ row, (change row).key = row.key) :
    Table κ α where
  rows := table.rows.map change
  ordered := by
    have same : (table.rows.map change).map Row.id = table.rows.map Row.id := by
      rw [List.map_map]
      exact List.map_congr_left fun row _ => id row
    rw [same]
    exact table.ordered
  unique := by
    have same : (table.rows.map change).map Row.key = table.rows.map Row.key := by
      rw [List.map_map]
      exact List.map_congr_left fun row _ => key row
    rw [same]
    exact table.unique

theorem Table.mapRows_becomes (table : Table κ α) (change : Row κ α → Row κ α)
    (id : ∀ row, (change row).id = row.id) (key : ∀ row, (change row).key = row.key)
    (selected : Int → Bool) (spec : Row κ α → Option (Row κ α))
    (changed : ∀ row, selected row.id = true → ∀ value, spec row = some value → change row = value)
    (kept : ∀ row, selected row.id = false → change row = row) :
    table.Becomes selected spec (table.mapRows change id key) := by
  rw [Table.Becomes, Table.mapRows, List.forall₂_map_right_iff]
  exact List.forall₂_same.mpr fun row _ => ⟨id row, key row, changed row, kept row⟩

end Keyed
