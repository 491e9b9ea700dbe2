import Mpdcron.Lib.Upserts

/-! Two programs that upsert a row of one table and take turns, and when two upserts can change
places. -/

namespace Keyed

open Script

variable {κ α : Type} [DecidableEq κ] (reading : Reading)

/-- Both programs select the same new key before one of them inserts it. -/
def Race (turns : List Side) : Option (Upsert κ α) → Option (Upsert κ α) → Table κ α → Prop
  | some left, some right, table =>
      turns[0]? ≠ turns[1]? ∧ left.key = right.key ∧ table.find left.key = none
  | _, _, _ => False

/-- One upsert after the other. -/
def Table.upsertBoth (table : Table κ α) (first second : Option (Upsert κ α)) :
    Option (Table κ α) :=
  (table.upsertAnyRead reading first).bind fun between => between.upsertAnyRead reading second

/-- Both upserts, the one that has the last turn last. -/
def settled (turns : List Side) (left right : Option (Upsert κ α)) (table : Table κ α) :
    Option (Table κ α) :=
  if turns.getLast? = some .right then table.upsertBoth reading left right
  else table.upsertBoth reading right left

theorem turns_length (turns : List Side) :
    turns.length = turns.count .left + turns.count .right := by
  induction turns with
  | nil => rfl
  | cons side turns ih =>
      cases side <;> simp [ih] <;> omega

theorem turns_left (turns : List Side) (rights : turns.count .right = 0) :
    turns = List.replicate (turns.count .left) .left := by
  have length := turns_length turns
  rw [rights] at length
  exact List.eq_replicate_iff.mpr ⟨length, fun side member =>
    (List.count_eq_length.mp length.symm side member).symm⟩

theorem turns_right (turns : List Side) (lefts : turns.count .left = 0) :
    turns = List.replicate (turns.count .right) .right := by
  have length := turns_length turns
  rw [lefts, Nat.zero_add] at length
  exact List.eq_replicate_iff.mpr ⟨length, fun side member =>
    (List.count_eq_length.mp length.symm side member).symm⟩

theorem two_each (turns : List Side) (left : turns.count .left = 2)
    (right : turns.count .right = 2) :
    turns ∈ [[Side.left, .left, .right, .right], [.left, .right, .left, .right],
      [.left, .right, .right, .left], [.right, .left, .left, .right],
      [.right, .left, .right, .left], [.right, .right, .left, .left]] := by
  have length := turns_length turns
  rw [left, right] at length
  rcases List.length_eq_four.mp length with ⟨a, b, c, d, rfl⟩
  cases a <;> cases b <;> cases c <;> cases d <;> simp at left right ⊢

section Turns

theorem exists_select (key : κ) (table : Table κ α) (goal : Option Int → Table κ α → Prop) :
    (∃ selected same, execRead reading (.select key) table = some (selected, same) ∧
        goal selected same) ↔
      ∃ selected, table.selected reading key = some selected ∧ goal selected table := by
  rw [Upsert.execRead_select]
  cases table.selected reading key <;> simp

/-- A select and its write right after it. -/
theorem exists_write (op : Upsert κ α) (table : Table κ α) (goal : Table κ α → Prop) :
    (∃ selected, table.selected reading op.key = some selected ∧
        ∃ answer after, execRead reading (op.write selected) table = some (answer, after) ∧
          goal after) ↔
      ∃ after, table.upsertRead reading op = some after ∧ goal after := by
  have written := op.exec_write_read reading table
  cases read : table.selected reading op.key with
  | none =>
      rw [read] at written
      have failed := Option.map_eq_none_iff.mp written.symm
      simp [failed]
  | some selected =>
      rw [read, Option.bind_some] at written
      simp only [Option.some.injEq, existsAndEq, true_and, written]
      cases table.upsertRead reading op <;> simp

/-- A write whose select came before the visit of another program. -/
theorem exists_write_after (op other : Upsert κ α) (table after : Table κ α)
    (between : table.upsertRead reading other = some after) (goal : Table κ α → Prop) :
    (∃ selected, table.selected reading op.key = some selected ∧
        ∃ answer last, execRead reading (op.write selected) after = some (answer, last) ∧
          goal last) ↔
      ¬(op.key = other.key ∧ table.find op.key = none) ∧
        ∃ last, after.upsertRead reading op = some last ∧ goal last := by
  have written := op.exec_write_after reading other table after between
  have bound : (∃ selected, table.selected reading op.key = some selected ∧
        ∃ answer last, execRead reading (op.write selected) after = some (answer, last) ∧
          goal last) ↔
      ∃ answer last, ((table.selected reading op.key).bind fun selected =>
        execRead reading (op.write selected) after) = some (answer, last) ∧ goal last := by
    cases table.selected reading op.key <;> simp
  rw [bound, written]
  by_cases race : op.key = other.key ∧ table.find op.key = none
  · rw [if_pos race]
    exact iff_of_false (fun ⟨_, _, ran, _⟩ => nomatch ran) fun safe => safe.1 race
  · rw [if_neg race]
    refine Iff.trans ?_ (and_iff_right race).symm
    cases after.upsertRead reading op <;> simp

variable (left right : Upsert κ α) (table final : Table κ α)

theorem completes_left_first :
    Completes (execRead reading) [.left, .left, .right, .right] (both left.visit right.visit) table
        final ↔
      table.upsertBoth reading (some left) (some right) = some final := by
  simp only [Upsert.visit, Upsert.writing, completes_left, completes_right, completes_ended,
    exists_select, exists_write, Table.upsertBoth, Table.upsertAnyRead, Option.bind_eq_some_iff]
  simp only [eq_comm, exists_eq_right']

theorem completes_right_first :
    Completes (execRead reading) [.right, .right, .left, .left] (both left.visit right.visit) table
        final ↔
      table.upsertBoth reading (some right) (some left) = some final := by
  simp only [Upsert.visit, Upsert.writing, completes_left, completes_right, completes_ended,
    exists_select, exists_write, Table.upsertBoth, Table.upsertAnyRead, Option.bind_eq_some_iff]
  simp only [eq_comm, exists_eq_right']

/-- Both programs have selected, which has changed nothing. -/
def CompletesWrites (turns : List Side) : Prop :=
  ∃ mine theirs, table.selected reading left.key = some mine ∧
    table.selected reading right.key = some theirs ∧
      Completes (execRead reading) turns (both (left.writing mine) (right.writing theirs)) table final

theorem completes_left_right (turns : List Side) :
    Completes (execRead reading) (.left :: .right :: turns) (both left.visit right.visit) table
        final ↔
      CompletesWrites reading left right table final turns := by
  simp only [Upsert.visit, completes_left, completes_right, exists_select, CompletesWrites,
    exists_and_left]

theorem completes_right_left (turns : List Side) :
    Completes (execRead reading) (.right :: .left :: turns) (both left.visit right.visit) table
        final ↔
      CompletesWrites reading left right table final turns := by
  simp only [Upsert.visit, completes_left, completes_right, exists_select, CompletesWrites]
  constructor
  · rintro ⟨theirs, other, mine, selected, done⟩
    exact ⟨mine, theirs, selected, other, done⟩
  · rintro ⟨mine, theirs, selected, other, done⟩
    exact ⟨theirs, other, mine, selected, done⟩

/-- Two writes after both selects. -/
theorem exists_writes (first second : Upsert κ α) :
    (∃ mine theirs, table.selected reading first.key = some mine ∧
        table.selected reading second.key = some theirs ∧
          ∃ answer after, execRead reading (first.write mine) table = some (answer, after) ∧
            ∃ answer last, execRead reading (second.write theirs) after = some (answer, last) ∧
              final = last) ↔
      ¬(second.key = first.key ∧ table.find second.key = none) ∧
        table.upsertBoth reading (some first) (some second) = some final := by
  have goal := exists_write reading first table fun after =>
    ∃ theirs, table.selected reading second.key = some theirs ∧
      ∃ answer last, execRead reading (second.write theirs) after = some (answer, last) ∧
        final = last
  rw [Table.upsertBoth, Option.bind_eq_some_iff]
  constructor
  · rintro ⟨mine, theirs, selected, other, answer, after, wrote, last⟩
    rcases goal.mp ⟨mine, selected, answer, after, wrote, theirs, other, last⟩ with
      ⟨after, wrote, rest⟩
    rcases (exists_write_after reading second first table after wrote _).mp rest with
      ⟨safe, last, second, rfl⟩
    exact ⟨safe, after, wrote, second⟩
  · rintro ⟨safe, after, wrote, second⟩
    have rest := (exists_write_after reading _ first table after wrote fun last => final = last).mpr
      ⟨safe, final, second, rfl⟩
    rcases goal.mpr ⟨after, wrote, rest⟩ with
      ⟨mine, selected, answer, after, wrote, theirs, other, last⟩
    exact ⟨mine, theirs, selected, other, answer, after, wrote, last⟩

theorem completes_writes_left :
    CompletesWrites reading left right table final [.left, .right] ↔
      ¬(left.key = right.key ∧ table.find left.key = none) ∧
        table.upsertBoth reading (some left) (some right) = some final := by
  have race : (right.key = left.key ∧ table.find right.key = none) ↔
      left.key = right.key ∧ table.find left.key = none := by
    constructor <;> exact fun ⟨same, free⟩ => ⟨same.symm, same ▸ free⟩
  simp only [CompletesWrites, Upsert.writing, completes_left, completes_right, completes_ended]
  rw [exists_writes, race]

theorem completes_writes_right :
    CompletesWrites reading left right table final [.right, .left] ↔
      ¬(left.key = right.key ∧ table.find left.key = none) ∧
        table.upsertBoth reading (some right) (some left) = some final := by
  simp only [CompletesWrites, Upsert.writing, completes_left, completes_right, completes_ended]
  rw [← exists_writes, exists_comm]
  simp only [and_left_comm]

theorem completes_two (turns : List Side) (lefts : turns.count .left = 2)
    (rights : turns.count .right = 2) :
    Completes (execRead reading) turns (both left.visit right.visit) table final ↔
      ¬Race turns (some left) (some right) table ∧
        settled reading turns (some left) (some right) table = some final := by
  have orders := two_each turns lefts rights
  simp only [List.mem_cons, List.not_mem_nil, or_false] at orders
  rcases orders with rfl | rfl | rfl | rfl | rfl | rfl
  · simp [completes_left_first, Race, settled]
  · simp [completes_left_right, completes_writes_left, Race, settled]
  · simp [completes_left_right, completes_writes_right, Race, settled]
  · simp [completes_right_left, completes_writes_left, Race, settled]
  · simp [completes_right_left, completes_writes_right, Race, settled]
  · simp [completes_right_first, Race, settled]

end Turns

/-- Two programs in any turns: no race, and then the same as one after the other. -/
theorem completes_visits (turns : List Side) (left right : Option (Upsert κ α))
    (lefts : turns.count .left = visitCount left)
    (rights : turns.count .right = visitCount right) (table final : Table κ α) :
    Completes (execRead reading) turns (both (visitAny left) (visitAny right)) table final ↔
      ¬Race turns left right table ∧ settled reading turns left right table = some final := by
  cases left with
  | some left =>
      cases right with
      | some right => exact completes_two reading left right table final turns lefts rights
      | none =>
          rw [turns_left turns rights, lefts]
          simp only [visitAny, visitCount, Upsert.visit, Upsert.writing, List.replicate,
            completes_left, completes_ended, exists_select, exists_write, Race, settled]
          simp [Table.upsertBoth, Table.upsertAnyRead, eq_comm]
  | none =>
      cases right with
      | some right =>
          rw [turns_right turns lefts, rights]
          simp only [visitAny, visitCount, Upsert.visit, Upsert.writing, List.replicate,
            completes_right, completes_ended, exists_select, exists_write, Race, settled]
          simp [Table.upsertBoth, Table.upsertAnyRead, eq_comm]
      | none =>
          rw [turns_left turns rights, lefts]
          simp [visitAny, visitCount, completes_ended, Race, settled, Table.upsertBoth,
            Table.upsertAnyRead, eq_comm]

/-! ### The order of two upserts -/

theorem Table.access_eq (table : Table κ α) (key : κ) :
    table.access reading key = match (table.find key).map Row.id with
      | none => .reached
      | some id => reading.access (table.skeleton.map Prod.fst) id := by
  have ids : table.rows.map Row.id = table.skeleton.map Prod.fst := by
    rw [Table.skeleton, List.map_map]
    rfl
  rw [Table.access, ids]
  cases table.find key <;> rfl

/-- Ids and keys alone say how a key is met. -/
theorem Table.access_congr {table other : Table κ α} (skeleton : table.skeleton = other.skeleton)
    (key : κ) : table.access reading key = other.access reading key := by
  rw [Table.access_eq, Table.access_eq, Table.id_eq, Table.id_eq, skeleton]

/-- How the second key is met after an upsert of the first, where that is a new row. -/
def Table.accessNext (table : Table κ α) (second : κ) : Access :=
  match table.find second with
  | none => .reached
  | some row => reading.access (table.rows.map Row.id ++ [table.nextId]) row.id

def Table.accessAfter (table : Table κ α) (first second : κ) : Access :=
  if table.find first = none then
    if first = second then reading.access (table.rows.map Row.id ++ [table.nextId]) table.nextId
    else table.accessNext reading second
  else table.access reading second

theorem Table.access_after {table between : Table κ α} {op : Upsert κ α}
    (upserted : table.upsertRead reading op = some between) (key : κ) :
    between.access reading key = table.accessAfter reading op.key key := by
  rw [Table.accessAfter]
  rcases Table.upsertRead_cases reading upserted with rfl | ⟨rfl, taken⟩
  · by_cases free : table.find op.key = none
    · have skeleton : (table.upsert op).skeleton = table.skeleton ++ [(table.nextId, op.key)] := by
        rw [Table.upsert, free]
        exact table.skeleton_append op.key op.fresh free
      have ids : (table.upsert op).skeleton.map Prod.fst
          = table.rows.map Row.id ++ [table.nextId] := by
        rw [skeleton, List.map_append, Table.skeleton, List.map_map]
        rfl
      rw [if_pos free, Table.access_eq, ids]
      by_cases same : op.key = key
      · rw [if_pos same, Table.id_eq, skeleton, List.find?_append]
        have absent : table.skeleton.find? (fun entry => entry.2 = key) = none := by
          have noId := table.id_eq op.key
          rw [free, same] at noId
          exact Option.map_eq_none_iff.mp noId.symm
        simp [absent, same]
      · rw [if_neg same, table.id_upsert op key (.inl (Ne.symm same)), Table.accessNext]
        cases table.find key <;> rfl
    · rw [if_neg free, Table.access_congr reading (table.skeleton_upsert_taken op free)]
  · rw [if_neg taken]

/-- Both upserts, by how they meet their rows. -/
theorem Table.upsertBoth_eq (table : Table κ α) (first second : Upsert κ α) :
    table.upsertBoth reading (some first) (some second)
      = match table.access reading first.key,
          table.accessAfter reading first.key second.key with
        | .failed, _ => none
        | _, .failed => none
        | .reached, .reached => some ((table.upsert first).upsert second)
        | .reached, .missed => some (table.upsert first)
        | .missed, .reached => some (table.upsert second)
        | .missed, .missed => some table := by
  rw [Table.upsertBoth, Table.upsertAnyRead]
  cases upserted : table.upsertRead reading first with
  | none =>
      rw [Table.upsertRead] at upserted
      cases access : table.access reading first.key <;> simp [access] at upserted ⊢
  | some between =>
      rw [Option.bind_some, Table.upsertAnyRead, Table.upsertRead,
        Table.access_after reading upserted]
      rw [Table.upsertRead] at upserted
      cases access : table.access reading first.key <;> simp only [access] at upserted ⊢ <;>
        cases upserted <;> cases table.accessAfter reading first.key second.key <;> rfl

/-- Both upserts come to an end. -/
theorem Table.upsertBoth_isSome (table : Table κ α) (first second : Upsert κ α) :
    (table.upsertBoth reading (some first) (some second)).isSome ↔
      table.access reading first.key ≠ .failed ∧
        table.accessAfter reading first.key second.key ≠ .failed := by
  rw [Table.upsertBoth_eq]
  cases table.access reading first.key <;>
    cases table.accessAfter reading first.key second.key <;> simp

theorem Table.accessAfter_taken {table : Table κ α} {first : κ} (second : κ)
    (taken : table.find first ≠ none) :
    table.accessAfter reading first second = table.access reading second := by
  rw [Table.accessAfter, if_neg taken]

theorem Table.access_free {table : Table κ α} {key : κ} (free : table.find key = none) :
    table.access reading key = .reached := by
  rw [Table.access, free]

/-- One id more can only be in the way. -/
theorem Reading.access_append (ids : List Int) (next id : Int) :
    reading.access (ids ++ [next]) id = reading.access ids id ∨
      reading.access ids id = .missed ∧ reading.access (ids ++ [next]) id = .failed := by
  rw [Reading.access, Reading.access]
  cases reading id with
  | none => exact .inl rfl
  | some read =>
      cases read with
      | none => exact .inl rfl
      | some read =>
          dsimp only
          by_cases same : read = id
          · exact .inl (by rw [if_pos same, if_pos same])
          · by_cases known : read ∈ ids
            · exact .inl (by simp [same, known])
            · by_cases isNext : read = next
              · subst isNext
                exact .inr (by simp [same, known])
              · exact .inl (by simp [same, known, isNext])

section Order

variable (table : Table κ α) (op other : Upsert κ α)

theorem Table.upsert_free (free : table.find op.key = none) :
    table.upsert op = table.append op.key op.fresh := by
  rw [Table.upsert, free]

/-- Upserts of one key can change places if they leave the same row; a new row that the second does
not find again is the first one's. -/
theorem Table.upsertBoth_comm_of_eq (same : op.key = other.key) :
    table.upsertBoth reading (some op) (some other)
        = table.upsertBoth reading (some other) (some op) ↔
      match table.access reading op.key, table.accessAfter reading op.key op.key with
      | .reached, .reached =>
          other.apply (op.apply (table.get op.key)) = op.apply (other.apply (table.get op.key))
      | .reached, .missed => op.fresh = other.fresh
      | _, _ => True := by
  rw [Table.upsertBoth_eq, Table.upsertBoth_eq, ← same]
  cases access : table.access reading op.key with
  | failed => simp
  | missed =>
      have taken : table.find op.key ≠ none := fun free => by
        rw [Table.access_free reading free] at access
        cases access
      rw [Table.accessAfter_taken reading _ taken, access]
      simp
  | reached =>
      cases next : table.accessAfter reading op.key op.key with
      | failed => simp
      | reached => simpa using table.upsert_comm_of_eq op other same
      | missed =>
          have free : table.find op.key = none := by
            by_contra taken
            rw [Table.accessAfter_taken reading _ taken, access] at next
            cases next
          have otherFree : table.find other.key = none := same ▸ free
          dsimp only
          rw [Option.some.injEq, table.upsert_free op free, table.upsert_free other otherFree, same]
          constructor
          · intro equal
            have data := congrArg (fun table => table.get other.key) equal
            simpa [Table.get_append _ _ _ _ otherFree] using data
          · intro fresh
            rw [fresh]

/-- An id that is in the way of the other key: the two must come in one order. -/
theorem Table.upsertBoth_comm_moved (free : table.find op.key = none)
    (taken : table.find other.key ≠ none) (differs : op.key ≠ other.key)
    (moved : table.accessAfter reading op.key other.key ≠ table.access reading other.key) :
    table.upsertBoth reading (some op) (some other)
      ≠ table.upsertBoth reading (some other) (some op) := by
  have opAccess := Table.access_free reading free
  have after : table.accessAfter reading op.key other.key = table.accessNext reading other.key := by
    rw [Table.accessAfter, if_pos free, if_neg differs]
  rcases Option.ne_none_iff_exists'.mp taken with ⟨row, found⟩
  rw [Table.upsertBoth_eq, Table.upsertBoth_eq, opAccess, Table.accessAfter_taken reading _ taken,
    opAccess, after]
  rw [after] at moved
  rw [Table.accessNext, Table.access, found] at moved ⊢
  dsimp only at moved ⊢
  rcases reading.access_append (table.rows.map Row.id) table.nextId row.id with
    same | ⟨missed, failed⟩
  · exact absurd same moved
  · rw [missed, failed]
    simp

/-- Upserts of two keys can change places unless both are new, or the new row of one has the id that
is read for the other. -/
theorem Table.upsertBoth_comm_of_ne (differs : op.key ≠ other.key) :
    table.upsertBoth reading (some op) (some other)
        = table.upsertBoth reading (some other) (some op) ↔
      ¬(table.find op.key = none ∧ table.find other.key = none) ∧
        table.accessAfter reading op.key other.key = table.access reading other.key ∧
        table.accessAfter reading other.key op.key = table.access reading op.key := by
  have comm := table.upsert_comm_of_ne op other differs
  constructor
  · intro equal
    by_cases free : table.find op.key = none
    · by_cases otherFree : table.find other.key = none
      · -- both are new, and the ids tell
        rw [Table.upsertBoth_eq, Table.upsertBoth_eq, Table.access_free reading free,
          Table.access_free reading otherFree] at equal
        simp only [Table.accessAfter, if_neg differs, if_neg (Ne.symm differs), Table.accessNext,
          free, otherFree, if_true] at equal
        exact absurd ⟨free, otherFree⟩ (comm.mp (Option.some.inj equal))
      · refine ⟨fun both => otherFree both.2, ?_, Table.accessAfter_taken reading _ otherFree⟩
        by_contra moved
        exact Table.upsertBoth_comm_moved reading table op other free otherFree differs moved equal
    · refine ⟨fun both => free both.1, Table.accessAfter_taken reading _ free, ?_⟩
      by_cases otherFree : table.find other.key = none
      · by_contra moved
        exact Table.upsertBoth_comm_moved reading table other op otherFree free (Ne.symm differs)
          moved equal.symm
      · exact Table.accessAfter_taken reading _ otherFree
  · rintro ⟨old, after, otherAfter⟩
    have swap := comm.mpr old
    rw [Table.upsertBoth_eq, Table.upsertBoth_eq, after, otherAfter]
    cases table.access reading op.key <;> cases table.access reading other.key <;> simp [swap]

end Order

end Keyed
