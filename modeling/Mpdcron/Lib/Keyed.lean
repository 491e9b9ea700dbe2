import Mathlib.Data.List.Basic
import Mathlib.Data.List.Induction
import Mathlib.Data.List.Nodup
import Mathlib.Data.Option.Basic

/-! Tables of rows with an id and a unique key, in the order of their ids, and what inserting a
row or updating the row of a key does to them. -/

namespace Keyed

structure Row (κ α : Type) where
  id : Int
  key : κ
  data : α
  deriving DecidableEq, Repr

/-- The rows stand in the order of their ids, and no two have the same key. -/
structure Table (κ α : Type) where
  rows : List (Row κ α)
  ordered : (rows.map Row.id).Pairwise (· < ·)
  unique : (rows.map Row.key).Nodup

variable {κ α : Type}

@[ext] theorem Table.ext {table other : Table κ α} (rows : table.rows = other.rows) :
    table = other := by
  cases table
  cases other
  cases rows
  rfl

def Table.empty : Table κ α := ⟨[], .nil, .nil⟩

/-- One more than the largest id, which is that of the last row; 1 in an empty table. -/
def Table.nextId (table : Table κ α) : Int := ((table.rows.map Row.id).getLast?.map (· + 1)).getD 1

theorem le_getLast (ids : List Int) (ordered : ids.Pairwise (· < ·)) (last id : Int)
    (isLast : ids.getLast? = some last) (member : id ∈ ids) : id ≤ last := by
  rcases List.getLast?_eq_some_iff.mp isLast with ⟨before, rfl⟩
  rcases List.mem_append.mp member with earlier | here
  · have less : id < last :=
      (List.pairwise_append.mp ordered).2.2 id earlier last (List.mem_singleton.mpr rfl)
    omega
  · have same : id = last := List.mem_singleton.mp here
    omega

theorem Table.lt_nextId (table : Table κ α) (row : Row κ α) (member : row ∈ table.rows) :
    row.id < table.nextId := by
  have inIds : row.id ∈ table.rows.map Row.id := List.mem_map_of_mem member
  cases isLast : (table.rows.map Row.id).getLast? with
  | none =>
      rw [List.getLast?_eq_none_iff.mp isLast] at inIds
      cases inIds
  | some last =>
      have most := le_getLast _ table.ordered last row.id isLast inIds
      rw [Table.nextId, isLast, Option.map_some, Option.getD_some]
      omega

theorem Table.distinct (table : Table κ α) : (table.rows.map Row.id).Nodup :=
  table.ordered.imp Int.ne_of_lt

theorem Table.eq_of_id (table : Table κ α) {row other : Row κ α} (member : row ∈ table.rows)
    (otherMember : other ∈ table.rows) (same : row.id = other.id) : row = other :=
  List.inj_on_of_nodup_map table.distinct member otherMember same

theorem Table.eq_of_key (table : Table κ α) {row other : Row κ α} (member : row ∈ table.rows)
    (otherMember : other ∈ table.rows) (same : row.key = other.key) : row = other :=
  List.inj_on_of_nodup_map table.unique member otherMember same

def Row.change (id : Int) (key : κ) (change : α → α) (row : Row κ α) : Row κ α :=
  if row.id = id then { row with key := key, data := change row.data } else row

theorem change_ids (rows : List (Row κ α)) (id : Int) (key : κ) (change : α → α) :
    (rows.map (Row.change id key change)).map Row.id = rows.map Row.id := by
  rw [List.map_map]
  apply List.map_congr_left
  intro row _
  rw [Function.comp_apply, Row.change]
  split <;> rfl

/-- The rows without their data. -/
def Table.skeleton (table : Table κ α) : List (Int × κ) :=
  table.rows.map fun row => (row.id, row.key)

theorem Table.nextId_eq (table : Table κ α) :
    table.nextId = ((table.skeleton.map Prod.fst).getLast?.map (· + 1)).getD 1 := by
  rw [Table.nextId, Table.skeleton, List.map_map]
  rfl

theorem Table.keys_eq (table : Table κ α) :
    table.rows.map Row.key = table.skeleton.map Prod.snd := by
  rw [Table.skeleton, List.map_map]
  rfl

variable [DecidableEq κ]

/-- The row with this key. -/
def Table.find (table : Table κ α) (key : κ) : Option (Row κ α) :=
  table.rows.find? fun row => row.key = key

theorem Table.find_eq_some {table : Table κ α} {key : κ} {row : Row κ α} :
    table.find key = some row ↔ row ∈ table.rows ∧ row.key = key := by
  constructor
  · intro found
    exact ⟨List.mem_of_find?_eq_some found, by simpa using List.find?_some found⟩
  · rintro ⟨member, rfl⟩
    cases found : table.find row.key with
    | none => simpa using List.find?_eq_none.mp found row member
    | some other =>
        have inTable := List.mem_of_find?_eq_some found
        have same : other.key = row.key := by simpa using List.find?_some found
        rw [table.eq_of_key inTable member same]

theorem Table.find_eq_none {table : Table κ α} {key : κ} :
    table.find key = none ↔ key ∉ table.rows.map Row.key := by
  simp [Table.find]

/-- A new row, unless its key is taken. -/
def Table.insert (table : Table κ α) (key : κ) (data : α) : Option (Table κ α) :=
  if fresh : key ∉ table.rows.map Row.key then
    some
      { rows := table.rows ++ [⟨table.nextId, key, data⟩]
        ordered := by
          rw [List.map_append, List.pairwise_append]
          refine ⟨table.ordered, List.pairwise_singleton _ _, ?_⟩
          intro id member next isNext
          rcases List.mem_map.mp member with ⟨row, inTable, rfl⟩
          rw [List.mem_singleton.mp isNext]
          exact table.lt_nextId row inTable
        unique := by
          rw [List.map_append, List.nodup_append]
          refine ⟨table.unique, List.nodup_singleton _, ?_⟩
          rintro taken member other isOther rfl
          rw [List.map_singleton, List.mem_singleton] at isOther
          rw [isOther] at member
          exact fresh member }
  else none

/-- The row of this id gets the key and the changed data, unless the key is another row's. -/
def Table.update (table : Table κ α) (id : Int) (key : κ) (change : α → α) :
    Option (Table κ α) :=
  let rows := table.rows.map (Row.change id key change)
  if unique : (rows.map Row.key).Nodup then
    some ⟨rows, by rw [change_ids]; exact table.ordered, unique⟩
  else none

/-- The row of the key is changed, or there is a new one. -/
structure Upsert (κ α : Type) where
  key : κ
  fresh : α
  change : α → α

/-- An update of the row that has this key already. -/
def Table.modify (table : Table κ α) (key : κ) (change : α → α) : Table κ α where
  rows := table.rows.map fun row =>
    if row.key = key then { row with data := change row.data } else row
  ordered := by
    rw [List.map_map]
    convert table.ordered using 1
    apply List.map_congr_left
    intro row _
    rw [Function.comp_apply]
    split <;> rfl
  unique := by
    rw [List.map_map]
    convert table.unique using 1
    apply List.map_congr_left
    intro row _
    rw [Function.comp_apply]
    split <;> rfl

/-- A new row if the key is free. -/
def Table.append (table : Table κ α) (key : κ) (data : α) : Table κ α :=
  (table.insert key data).getD table

def Table.upsert (table : Table κ α) (op : Upsert κ α) : Table κ α :=
  match table.find op.key with
  | none => table.append op.key op.fresh
  | some _ => table.modify op.key op.change

theorem Table.insert_free (table : Table κ α) (key : κ) (data : α) (free : table.find key = none) :
    table.insert key data = some (table.append key data) := by
  rw [Table.append, Table.insert, dif_pos (Table.find_eq_none.mp free)]
  rfl

theorem Table.insert_taken (table : Table κ α) (key : κ) (data : α) (row : Row κ α)
    (taken : table.find key = some row) : table.insert key data = none := by
  rcases Table.find_eq_some.mp taken with ⟨member, rfl⟩
  exact dif_neg (not_not_intro (List.mem_map_of_mem member))

/-- An update by the id of a key that leaves the key alone. -/
theorem Table.update_found (table : Table κ α) (key : κ) (change : α → α) (row : Row κ α)
    (found : table.find key = some row) :
    table.update row.id key change = some (table.modify key change) := by
  rcases Table.find_eq_some.mp found with ⟨member, rfl⟩
  have rows : table.rows.map (Row.change row.id row.key change)
      = (table.modify row.key change).rows := by
    apply List.map_congr_left
    intro other inTable
    by_cases same : other.id = row.id
    · rw [table.eq_of_id inTable member same]
      simp [Row.change]
    · have differs : other.key ≠ row.key := fun keys =>
        same (congrArg Row.id (table.eq_of_key inTable member keys))
      simp [Row.change, same, differs]
  have unique := (table.modify row.key change).unique
  rw [← rows] at unique
  simp only [Table.update, dif_pos unique]
  exact congrArg some (Table.ext rows)

theorem Table.append_rows (table : Table κ α) (key : κ) (data : α)
    (free : table.find key = none) :
    (table.append key data).rows = table.rows ++ [⟨table.nextId, key, data⟩] := by
  rw [Table.append, Table.insert, dif_pos (Table.find_eq_none.mp free)]
  rfl

/-! ### What a table holds, and its keys -/

/-- The data of the row with this key. -/
def Table.get (table : Table κ α) (key : κ) : Option α := (table.find key).map Row.data

theorem Table.get_eq_some {table : Table κ α} {key : κ} {data : α} :
    table.get key = some data ↔ ∃ row ∈ table.rows, row.key = key ∧ row.data = data := by
  rw [Table.get, Option.map_eq_some_iff]
  simp only [Table.find_eq_some, and_assoc]

theorem Table.get_eq_none {table : Table κ α} {key : κ} :
    table.get key = none ↔ table.find key = none := Option.map_eq_none_iff

theorem Table.get_of_mem {table : Table κ α} {row : Row κ α} (member : row ∈ table.rows) :
    table.get row.key = some row.data := Table.get_eq_some.mpr ⟨row, member, rfl, rfl⟩

/-- A table is given by its ids and keys and by what it holds for each key. -/
theorem Table.ext_of_get {table other : Table κ α} (skeleton : table.skeleton = other.skeleton)
    (get : ∀ key, table.get key = other.get key) : table = other := by
  apply Table.ext
  have rebuild (table : Table κ α) : table.rows.map some = table.skeleton.map fun entry =>
      (table.get entry.2).map fun data => ⟨entry.1, entry.2, data⟩ := by
    rw [Table.skeleton, List.map_map]
    apply List.map_congr_left
    intro row member
    simp [Table.get_of_mem member]
  have same : table.rows.map some = other.rows.map some := by
    rw [rebuild table, rebuild other, skeleton]
    simp only [get]
  exact List.map_injective_iff.mpr (Option.some_injective _) same

theorem Table.get_modify (table : Table κ α) (key other : κ) (change : α → α) :
    (table.modify key change).get other
      = if other = key then (table.get key).map change else table.get other := by
  have found : (table.modify key change).find other = (table.find other).map fun row =>
      if row.key = key then { row with data := change row.data } else row := by
    rw [Table.find, Table.modify, List.find?_map]
    congr 2
    funext row
    rw [Function.comp_apply]
    split <;> rfl
  rw [Table.get, found, Option.map_map]
  cases located : table.find other with
  | none =>
      by_cases same : other = key
      · rw [if_pos same, ← same, Table.get, located]
        rfl
      · rw [if_neg same, Table.get, located]
        rfl
  | some row =>
      have keyed := (Table.find_eq_some.mp located).2
      by_cases same : other = key
      · rw [if_pos same, ← same, Table.get, located]
        simp [keyed, same]
      · rw [if_neg same, Table.get, located]
        simp [keyed, same]

theorem Table.get_append (table : Table κ α) (key other : κ) (data : α)
    (free : table.find key = none) :
    (table.append key data).get other = if other = key then some data else table.get other := by
  have found : (table.append key data).find other
      = (table.find other).or (if key = other then some ⟨table.nextId, key, data⟩ else none) := by
    rw [Table.find, table.append_rows key data free, List.find?_append]
    by_cases same : key = other
    · simp [Table.find, same]
    · simp [Table.find, same]
  rw [Table.get, found]
  by_cases same : other = key
  · subst same
    simp [free]
  · simp [same, Ne.symm same, Table.get]

theorem Table.get_upsert (table : Table κ α) (op : Upsert κ α) (key : κ) :
    (table.upsert op).get key = if key = op.key then
      some (match table.get op.key with
        | none => op.fresh
        | some data => op.change data)
      else table.get key := by
  rw [Table.upsert]
  cases found : table.find op.key with
  | none =>
      dsimp only
      rw [table.get_append op.key key op.fresh found, Table.get_eq_none.mpr found]
  | some row =>
      dsimp only
      rw [table.get_modify]
      simp [Table.get, found]

theorem Table.skeleton_modify (table : Table κ α) (key : κ) (change : α → α) :
    (table.modify key change).skeleton = table.skeleton := by
  rw [Table.skeleton, Table.modify, List.map_map]
  apply List.map_congr_left
  intro row _
  rw [Function.comp_apply]
  split <;> rfl

theorem Table.skeleton_append (table : Table κ α) (key : κ) (data : α)
    (free : table.find key = none) :
    (table.append key data).skeleton = table.skeleton ++ [(table.nextId, key)] := by
  simp [Table.skeleton, table.append_rows key data free]

/-- An upsert of a key that the table has leaves ids and keys alone. -/
theorem Table.skeleton_upsert_taken (table : Table κ α) (op : Upsert κ α)
    (taken : table.find op.key ≠ none) : (table.upsert op).skeleton = table.skeleton := by
  rw [Table.upsert]
  cases found : table.find op.key with
  | none => exact absurd found taken
  | some row => exact table.skeleton_modify op.key op.change

/-- What an upsert does to the ids and keys depends on these alone. -/
theorem Table.skeleton_upsert_congr {table other : Table κ α} {op otherOp : Upsert κ α}
    (skeleton : table.skeleton = other.skeleton) (key : op.key = otherOp.key) :
    (table.upsert op).skeleton = (other.upsert otherOp).skeleton := by
  have free : table.find op.key = none ↔ other.find otherOp.key = none := by
    rw [Table.find_eq_none, Table.find_eq_none, keys_eq, keys_eq, skeleton, key]
  by_cases new : table.find op.key = none
  · have otherNew := free.mp new
    rw [Table.upsert, Table.upsert, new, otherNew]
    dsimp only
    rw [skeleton_append _ _ _ new, skeleton_append _ _ _ otherNew, nextId_eq, nextId_eq, skeleton,
      key]
  · rw [skeleton_upsert_taken _ _ new, skeleton_upsert_taken _ _ (mt free.mpr new), skeleton]

theorem Table.find_upsert_ne (table : Table κ α) (op : Upsert κ α) (key : κ)
    (differs : key ≠ op.key) : (table.upsert op).find key = none ↔ table.find key = none := by
  rw [← Table.get_eq_none, ← Table.get_eq_none, table.get_upsert, if_neg differs]

theorem Table.find_upsert_self (table : Table κ α) (op : Upsert κ α) :
    (table.upsert op).find op.key ≠ none := by
  rw [Ne, ← Table.get_eq_none, table.get_upsert, if_pos rfl]
  exact Option.some_ne_none _

/-- An upsert changes the table unless it finds its row and has nothing to change in it. -/
theorem Table.upsert_eq_self (table : Table κ α) (op : Upsert κ α) :
    table.upsert op = table ↔ ∃ data, table.get op.key = some data ∧ op.change data = data := by
  constructor
  · intro same
    have data := table.get_upsert op op.key
    rw [same, if_pos rfl] at data
    cases found : table.get op.key with
    | none =>
        rw [found] at data
        cases data
    | some before =>
        rw [found] at data
        exact ⟨before, rfl, (Option.some.inj data).symm⟩
  · rintro ⟨data, found, unchanged⟩
    apply Table.ext_of_get
    · apply table.skeleton_upsert_taken
      intro free
      rw [Table.get_eq_none.mpr free] at found
      cases found
    · intro key
      rw [table.get_upsert, found]
      dsimp only
      split
      next same => rw [same, found, unchanged]
      next => rfl

section Order

variable (table : Table κ α) (op other : Upsert κ α)

/-- The ids and keys after two upserts of which one finds its row. -/
theorem Table.skeleton_upsert_upsert (differs : op.key ≠ other.key)
    (old : table.find op.key ≠ none) :
    ((table.upsert op).upsert other).skeleton = ((table.upsert other).upsert op).skeleton := by
  have found : (table.upsert other).find op.key ≠ none :=
    mt (table.find_upsert_ne other op.key differs).mp old
  rw [skeleton_upsert_taken _ op found]
  exact skeleton_upsert_congr (table.skeleton_upsert_taken op old) rfl

/-- Upserts of two keys can change places unless both are new: then the ids tell. -/
theorem Table.upsert_comm_of_ne (differs : op.key ≠ other.key) :
    (table.upsert op).upsert other = (table.upsert other).upsert op ↔
      ¬(table.find op.key = none ∧ table.find other.key = none) := by
  constructor
  · rintro same ⟨free, otherFree⟩
    have skeleton := congrArg Table.skeleton same
    have second := (table.find_upsert_ne op other.key differs.symm).mpr otherFree
    have otherSecond := (table.find_upsert_ne other op.key differs).mpr free
    rw [Table.upsert, second, Table.upsert.eq_1 (table.upsert other), otherSecond] at skeleton
    dsimp only at skeleton
    rw [skeleton_append _ _ _ second, skeleton_append _ _ _ otherSecond, Table.upsert, free,
      Table.upsert, otherFree] at skeleton
    dsimp only at skeleton
    rw [skeleton_append _ _ _ free, skeleton_append _ _ _ otherFree] at skeleton
    simp only [List.append_assoc, List.cons_append, List.nil_append, List.append_cancel_left_eq,
      List.cons.injEq, Prod.mk.injEq, true_and] at skeleton
    exact differs skeleton.1
  · intro old
    apply Table.ext_of_get
    · by_cases free : table.find op.key = none
      · have otherOld : table.find other.key ≠ none := fun none => old ⟨free, none⟩
        exact (table.skeleton_upsert_upsert other op differs.symm otherOld).symm
      · exact table.skeleton_upsert_upsert op other differs free
    · intro key
      simp only [Table.get_upsert]
      by_cases mine : key = op.key
      · subst mine
        simp [differs]
      · by_cases theirs : key = other.key
        · subst theirs
          simp [differs.symm]
        · simp [mine, theirs]

end Order

/-! ### Many upserts -/

def Table.upsertAll (table : Table κ α) (ops : List (Upsert κ α)) : Table κ α :=
  ops.foldl Table.upsert table

/-- What an operation makes of the data of its key. -/
def Upsert.apply (data : Option α) (op : Upsert κ α) : Option α :=
  some (match data with
    | none => op.fresh
    | some data => op.change data)

theorem Table.get_upsert_self (table : Table κ α) (op : Upsert κ α) :
    (table.upsert op).get op.key = op.apply (table.get op.key) := by
  rw [table.get_upsert, if_pos rfl]
  rfl

/-- The row that an upsert leaves. -/
theorem Table.upsert_row (table : Table κ α) (op : Upsert κ α) :
    ∃ row ∈ (table.upsert op).rows, row.key = op.key ∧
      some row.data = op.apply (table.get op.key) := by
  have found : (table.upsert op).get op.key = some _ := table.get_upsert_self op
  rcases Table.get_eq_some.mp found with ⟨row, member, keyed, data⟩
  exact ⟨row, member, keyed, congrArg some data⟩

/-- Upserts of one key can change places if they leave the same data. -/
theorem Table.upsert_comm_of_eq (table : Table κ α) (op other : Upsert κ α)
    (same : op.key = other.key) :
    (table.upsert op).upsert other = (table.upsert other).upsert op ↔
      other.apply (op.apply (table.get op.key)) = op.apply (other.apply (table.get op.key)) := by
  have first : ((table.upsert op).upsert other).get op.key
      = other.apply (op.apply (table.get op.key)) := by
    rw [same, get_upsert_self, ← same, get_upsert_self]
  have second : ((table.upsert other).upsert op).get op.key
      = op.apply (other.apply (table.get op.key)) := by
    rw [get_upsert_self, same, get_upsert_self]
  constructor
  · intro equal
    rw [← first, ← second, equal]
  · intro equal
    apply Table.ext_of_get
    · have opFound := table.find_upsert_self other
      have otherFound := table.find_upsert_self op
      rw [same] at otherFound
      rw [← same] at opFound
      rw [skeleton_upsert_taken _ other otherFound, skeleton_upsert_taken _ op opFound]
      exact skeleton_upsert_congr rfl same
    · intro key
      by_cases mine : key = op.key
      · rw [mine, first, second, equal]
      · have theirs : key ≠ other.key := fun keys => mine (keys.trans same.symm)
        simp only [Table.get_upsert, if_neg mine, if_neg theirs]

/-- The data of a key come from the operations on this key, in their order. -/
theorem Table.get_upsertAll (ops : List (Upsert κ α)) : ∀ (table : Table κ α) (key : κ),
    (table.upsertAll ops).get key
      = (ops.filter fun op => op.key = key).foldl Upsert.apply (table.get key) := by
  induction ops with
  | nil => exact fun table key => rfl
  | cons op ops ih =>
      intro table key
      rw [Table.upsertAll, List.foldl_cons]
      refine (ih (table.upsert op) key).trans ?_
      rw [table.get_upsert op key]
      by_cases mine : op.key = key
      · rw [List.filter_cons_of_pos (by simpa using mine), List.foldl_cons, if_pos mine.symm, mine]
        rfl
      · rw [List.filter_cons_of_neg (by simpa using mine), if_neg (Ne.symm mine)]

/-- The operation keeps a part of what it finds and writes the rest anew. -/
structure Upsert.Keeps {τ : Type} (part : Option α → τ) (op : Upsert κ α) : Prop where
  kept : ∀ data, part (op.apply data) = part data
  anew : ∀ data other, part data = part other → op.apply data = op.apply other

section Keeps

variable {τ : Type} {part : Option α → τ} (ops : List (Upsert κ α))

end Keeps

end Keyed
