import Mathlib.Algebra.GroupWithZero.Nat
import Mpdcron.Lib.Lines
import Mpdcron.Stats.AddTag
import Mpdcron.Stats.TagColumn

/-! `db_remove_*_tag_expr`: the statement of each row, and what becomes of the table. -/

namespace Mpdcron.Stats

open CString SqlText SqlRow

def removeTagFunction {Db : Type} (sqlite : Sqlite Db) (authorizer : Action → Bool) :
    Table → Bytes → Bytes → Db → Except Fault (Except GError Int × Db)
  | .song => dbRemoveSongTagExpr sqlite authorizer
  | .artist => dbRemoveArtistTagExpr sqlite authorizer
  | .album => dbRemoveAlbumTagExpr sqlite authorizer
  | .genre => dbRemoveGenreTagExpr sqlite authorizer

/-- What stands behind the literal in the statement of a table. -/
def removeTagSuffix : Table → Bytes
  | .album => lit "'"
  | _ => []

theorem removeTagSuffix_nil (table : Table) (other : table ≠ .album) : removeTagSuffix table = [] := by
  cases table with
  | album => exact absurd rfl other
  | song => rfl
  | artist => rfl
  | genre => rfl

theorem removeTagFunction_eq {Db : Type} (sqlite : Sqlite Db) (authorizer : Action → Bool)
    (table : Table) (expr tag : Bytes) (db : Db) : removeTagFunction sqlite authorizer table expr tag db
      = dbRemoveTagExpr sqlite authorizer table (removeTagSuffix table) expr tag db := by
  cases table <;> rfl

/-- The row with what `remove_tag` leaves of its tags, which are a C string. -/
def withoutTag (table : Table) (tag : Bytes) (row : Keyed.Row Bytes (Data table)) :
    Option (Keyed.Row Bytes (Data table)) :=
  match removeTag (some (upToNul (countersOf table row.data).tags)) tag with
  | .error _ => none
  | .ok tags => some (withTags table tags row)

/-- What `remove_tag` returns. -/
def removedTags (tag tags : Bytes) : Bytes :=
  Delimited.render colon ((listedTags (upToNul tags)).filter (· ≠ tag))

theorem withoutTag_eq (table : Table) (tag : Bytes) (row : Keyed.Row Bytes (Data table)) :
    withoutTag table tag row
      = some (withTags table (removedTags tag (countersOf table row.data).tags) row) := by
  rw [withoutTag, removeTag_eq]
  rfl

/-- What sets the tags of rows. -/
def tagsBecome (tags : Bytes) : Assignment := ⟨lit "tags", .just (.literal tags)⟩

theorem apply_tagsBecome (table : Table) (tags : Bytes) (row : Keyed.Row Bytes (Data table)) :
    (tagsBecome tags).apply (rowLayout table) row = some (withTags table tags row) := by
  simp only [Assignment.apply, tagsBecome, Expr.eval, Operand.eval, Option.bind_some, set_tags]

theorem tagsBecome_noNul (tags : Bytes) (noNul : (0 : UInt8) ∉ tags) :
    (0 : UInt8) ∉ (tagsBecome tags).sql := by
  have literal := notMem_quoted 0 tags (by decide) noNul
  simp only [tagsBecome, Assignment.sql, Expr.sql, Operand.sql, List.mem_append, literal, or_false]
  decide

/-- What `remove_tag` returns is in the tags, but for the separators. -/
theorem removeTag_noNul (tags tag left : Bytes) (noNul : (0 : UInt8) ∉ tags)
    (removed : removeTag (some tags) tag = .ok left) : (0 : UInt8) ∉ left := by
  rw [removeTag_eq, listedTags_eq] at removed
  cases removed
  have pieces : ∀ piece ∈ (Delimited.words colon tags).filter (· ≠ tag), (0 : UInt8) ∉ piece := by
    intro piece kept present
    have inText := (List.mem_filter.mp (List.mem_filter.mp kept).1).1
    exact noNul ((mem_splitOn colon 0 (by decide) tags).mp ⟨piece, inText, present⟩)
  have notColon : (0 : UInt8) ≠ colon := by decide
  simpa [Delimited.render, notColon] using pieces

/-- The new tags of a row are a C string. -/
theorem readRemoved_noNul (tag : Bytes) (columns : Columns) (entry : Int × Bytes)
    (read : readRemoved tag columns = .ok entry) : (0 : UInt8) ∉ entry.2 := by
  rw [readRemoved, Columns.text] at read
  cases text : (columns.getD 1 .null).text with
  | none =>
      rw [text] at read
      cases read
  | some tags =>
      rw [text, Option.map_some] at read
      cases removed : removeTag (some (upToNul tags)) tag with
      | error fault =>
          rw [removed] at read
          cases read
      | ok left =>
          rw [removed] at read
          cases read
          exact removeTag_noNul _ tag left (upToNul_noNul tags) removed

theorem tagsBecome_known (tags : Bytes) (table : Table) :
    (tagsBecome tags).column ∈ table.writtenNames ∧
      (tagsBecome tags).columns ⊆ table.columnNames := by
  have written := (Change.addTag table tags).written
  refine ⟨written, fun name member => ?_⟩
  rw [List.mem_singleton.mp member]
  exact written_subset table written

/-- The columns of the query. -/
theorem removeNames_known (table : Table) : [lit "id", lit "tags"] ⊆ table.columnNames := by
  refine List.cons_subset.mpr ⟨?_, List.cons_subset.mpr ⟨?_, List.nil_subset _⟩⟩
  · cases table <;> exact List.mem_cons_self
  · exact written_subset table (tagsBecome_known [] table).1

section RemoveTag

variable {Db : Type} {sqlite : Sqlite Db} (engine : Engine sqlite)

/-- The updates of single rows do not fail but for their text. -/
structure Engine.WritesTags (authorizer : Action → Bool) : Prop where
  updates : ∀ table tags id db execution,
    sqlite.prepare authorizer (statement (updateHead table (tagsBecome tags).sql) (idExpr id)) db
      = .ok execution → ∃ next, dbStep execution = (.done, next)
  compiles : ∀ table id db, engine.compiles authorizer table [lit "tags"] (idExpr id) db

/-- The statement that `db_remove_album_tag_expr` makes for a row. -/
def albumUpdate (id : Int) (tags : Bytes) : Bytes :=
  lit "update album set tags = " ++ escapeString tags ++ lit "' where id = " ++ decimal id ++ lit " ;"

/-- Besides, the statements around the loop keep the contents, also where the authorizer denies
them, and the update of an album is no SQL where its literal is not closed. -/
structure Engine.Healthy (authorizer : Action → Bool) : Prop extends
    engine.WritesTags authorizer where
  maints : ∀ stmt db,
    engine.contents (dbStep (sqlite.runMaint authorizer stmt db)).2 = engine.contents db
  open_literal : ∀ id tags tokens text db,
    scan .between (albumUpdate id tags) = (tokens, .literal text) →
      ¬ Prepares sqlite authorizer (albumUpdate id tags) db

/-- The query compiles and no step of it fails. -/
def Selects {Db : Type} (sqlite : Sqlite Db) (authorizer : Action → Bool) (table : Table)
    (expr : Bytes) (db : Db) : Prop :=
  ∃ execution, sqlite.prepare authorizer
      (statement (selectHead (nameList [lit "id", lit "tags"]) table) expr) db = .ok execution ∧
    execution.failure = none

/-- The call returns true, has removed the tag from the rows of the expression and nothing else, and
tells how many they are. -/
def RemovesTag (authorizer : Action → Bool) (table : Table) (expr tag : Bytes) (db : Db) : Prop :=
  ∃ changes next, removeTagFunction sqlite authorizer table expr tag db = .ok (.ok changes, next) ∧
    engine.Updated table expr (withoutTag table tag) db next ∧
    changes = engine.matching table expr db

def isRow (id row : Int) : Bool := decide (row = id)

/-- The number of rows of an id: one or none. -/
def rowCount (table : Table) (tables : Database) (id : Int) : Nat :=
  ((tables table).select (isRow id)).length

theorem dbRunStmt_contents {authorizer : Action → Bool} (healthy : engine.Healthy authorizer)
    (stmt : Maint) (db : Db) :
    engine.contents (dbRunStmt sqlite authorizer stmt db).2 = engine.contents db := by
  rw [dbRunStmt]
  cases reset : sqlite.reset stmt db with
  | error errmsg => rfl
  | ok ready => exact (healthy.maints stmt ready).trans (engine.reset_kept stmt db ready reset)

theorem sqlUpdateEntry_text (table : Table) (id : Int) (tags : Bytes) :
    lit "update " ++ table.name ++ lit " set " ++ (lit "tags = " ++ escapeString tags)
        ++ lit " where " ++ (lit "id = " ++ decimal id) ++ lit " ;"
      = statement (updateHead table (tagsBecome tags).sql) (idExpr id) := rfl

/-- The update of one row. -/
theorem sqlUpdateEntry_tags {authorizer : Action → Bool} (writes : engine.WritesTags authorizer)
    (table : Table) (id : Int) (tags : Bytes) (noNul : (0 : UInt8) ∉ tags) (db : Db) :
    ∃ next, sqlUpdateEntry sqlite authorizer table (lit "tags = " ++ escapeString tags)
        (lit "id = " ++ decimal id) db = (.ok (), next) ∧
      (engine.contents db table).Becomes (isRow id)
        (fun row => some (withTags table tags row)) (engine.contents next table) ∧
      (∀ other, other ≠ table → engine.contents next other = engine.contents db other) ∧
      sqlite.changes next = rowCount table (engine.contents db) id := by
  have known := tagsBecome_known tags table
  have prepares := (engine.update_compiles authorizer table (tagsBecome tags) (idExpr id) db
    (engine.id_expression id) (tagsBecome_noNul tags noNul) known.1 known.2).mpr
    (writes.compiles table id db)
  rcases prepares with ⟨execution, prepared⟩
  rcases writes.updates table tags id db execution prepared with ⟨next, done⟩
  have updated := engine.update_done authorizer table (tagsBecome tags) (idExpr id) db execution next
    (engine.id_expression id) known.1 known.2 prepared done
  have holds : engine.holds db table (idExpr id) = isRow id :=
    funext (engine.id_holds db table id)
  have applied : (tagsBecome tags).apply (rowLayout table)
      = fun row => some (withTags table tags row) := funext (apply_tagsBecome table tags)
  rw [holds, applied] at updated
  refine ⟨next, ?_, updated⟩
  simp only [sqlUpdateEntry, sqlUpdateEntry_text, prepared, done]
  rfl

/-- The ids of the loop, as a condition on rows. -/
def isAny (ids : List (Int × Bytes)) (row : Int) : Bool := (ids.lookup row).isSome

/-- What the loop makes of a row. -/
def listedTagsOf (table : Table) (ids : List (Int × Bytes)) (row : Keyed.Row Bytes (Data table)) :
    Option (Keyed.Row Bytes (Data table)) :=
  (ids.lookup row.id).map fun tags => withTags table tags row

theorem lookup_cons_int (id row : Int) (tags : Bytes) (ids : List (Int × Bytes)) :
    List.lookup row ((id, tags) :: ids) = if row = id then some tags else ids.lookup row := by
  by_cases same : row = id
  · rw [if_pos same, same, List.lookup_cons_self]
  · have differs : (row == id) = false := by simpa using same
    rw [if_neg same, List.lookup_cons, differs]

/-- A row after the turn of the first id and the turns of the later ones, which are other ids. -/
theorem becomes_listed {table : Table} {id : Int} {tags : Bytes} {ids : List (Int × Bytes)}
    {row between last : Keyed.Row Bytes (Data table)} (own : id ∉ ids.map Prod.fst)
    (one : row.Becomes (isRow id) (fun row => some (withTags table tags row)) between)
    (rest : between.Becomes (isAny ids) (listedTagsOf table ids) last) :
    row.Becomes (isAny ((id, tags) :: ids)) (listedTagsOf table ((id, tags) :: ids)) last := by
  have lookup := lookup_cons_int id row.id tags ids
  by_cases same : row.id = id
  · rw [if_pos same] at lookup
    have absent : ids.lookup between.id = none := by
      rw [one.id, same, List.lookup_eq_none_iff]
      intro entry member
      have different : id ≠ entry.1 := fun equal =>
        own (List.mem_map.mpr ⟨entry, member, equal.symm⟩)
      simpa using different
    have settled : last = withTags table tags row := by
      rw [rest.kept (by rw [isAny, absent]; rfl)]
      exact one.changed (by simp [isRow, same]) _ rfl
    refine ⟨rest.id.trans one.id, rest.key.trans one.key, fun _ value changed => ?_,
      fun unchosen => ?_⟩
    · rw [listedTagsOf, lookup] at changed
      exact settled.trans (Option.some.inj changed)
    · rw [isAny, lookup] at unchosen
      cases unchosen
  · rw [if_neg same] at lookup
    have still : between = row := one.kept (by simp [isRow, same])
    rw [still] at rest
    refine ⟨rest.id, rest.key, fun chosen value changed => ?_, fun unchosen => ?_⟩
    · rw [isAny, lookup] at chosen
      rw [listedTagsOf, lookup] at changed
      exact rest.changed chosen value changed
    · rw [isAny, lookup] at unchosen
      exact rest.kept unchosen

/-- The loop over the rows. Each turn updates the row of its id, and no later turn changes it
again. -/
theorem removeTagLoop_done {authorizer : Action → Bool} (healthy : engine.Healthy authorizer)
    (table : Table) (ids : List (Int × Bytes)) : (∀ entry ∈ ids, (0 : UInt8) ∉ entry.2) →
    ∀ (changes : Int) (db : Db), ∃ next, removeTagLoop sqlite authorizer table [] ids changes db
        = (.ok (changes + ((ids.map fun entry =>
            rowCount table (engine.contents db) entry.1).sum : Nat)), next) ∧
      (∀ other, other ≠ table → engine.contents next other = engine.contents db other) ∧
      ((ids.map Prod.fst).Nodup →
        (engine.contents db table).Becomes (isAny ids) (listedTagsOf table ids)
          (engine.contents next table)) ∧
      ∀ row ∈ (engine.contents db table).rows, row.id ∉ ids.map Prod.fst →
        row ∈ (engine.contents next table).rows := by
  induction ids with
  | nil =>
      intro _ changes db
      refine ⟨db, by simp [removeTagLoop], fun _ _ => rfl, fun _ => ?_, fun row member _ => member⟩
      exact Keyed.Table.becomes_self _ _ fun _ _ => rfl
  | cons entry ids ih =>
      intro noNul changes db
      rcases entry with ⟨id, tags⟩
      rw [List.forall_mem_cons] at noNul
      rcases sqlUpdateEntry_tags engine healthy.toWritesTags table id tags noNul.1 db with
        ⟨middle, updated, first, others, counted⟩
      rcases ih noNul.2 (changes + sqlite.changes middle) middle with ⟨next, ran, laterOthers, later, still⟩
      have counts (other : Int) : rowCount table (engine.contents middle) other
          = rowCount table (engine.contents db) other := first.select_length (isRow other)
      refine ⟨next, ?_, ?_, ?_, ?_⟩
      · rw [removeTagLoop, List.append_nil, updated]
        dsimp only
        rw [ran, counted]
        simp only [counts, List.map_cons, List.sum_cons, Int.natCast_add, Int.add_assoc]
      · intro other different
        rw [laterOthers other different, others other different]
      · intro distinct
        rw [List.map_cons, List.nodup_cons] at distinct
        exact first.trans (later distinct.2) fun row _ between last one rest =>
          becomes_listed distinct.1 one rest
      · intro row member absent
        rw [List.map_cons, List.mem_cons, not_or] at absent
        rcases first.mem member with ⟨between, inMiddle, one⟩
        have same : between = row := one.kept (by simp [isRow, absent.1])
        exact still row (same ▸ inMiddle) absent.2

/-- The entry of a row in the list of the loop: its id as an `int`, and its new tags. -/
def removedEntry (table : Table) (tag : Bytes) (row : Keyed.Row Bytes (Data table)) : Int × Bytes :=
  (wrapInt row.id, removedTags tag (countersOf table row.data).tags)

theorem removedEntry_id (table : Table) (tag : Bytes) (row : Keyed.Row Bytes (Data table)) :
    (removedEntry table tag row).1 = wrapInt row.id := by
  rw [removedEntry]

theorem readRemoved_row (table : Table) (tag : Bytes) (row : Keyed.Row Bytes (Data table)) :
    readRemoved tag ([lit "id", lit "tags"].map fun name => columnOf ((rowLayout table).get row name))
      = .ok (removedEntry table tag row) := by
  have id : (rowLayout table).get row (lit "id") = some (.integer row.id) := by
    cases table <;> rfl
  rw [List.map_cons, List.map_singleton, id, get_tags]
  have int (columns : Columns) : Columns.int (columnOf (some (.integer row.id)) :: columns) 0
      = wrapInt row.id := by
    simp [Columns.int, columnOf]
  have text (first : Column) (tags : Bytes) :
      Columns.text [first, columnOf (some (.text tags))] 1 = some (upToNul tags) := by
    simp [Columns.text, columnOf]
  rw [readRemoved, int, text, removeTag_eq]
  rfl

theorem removedEntries_noNul (table : Table) (tag : Bytes)
    (rows : List (Keyed.Row Bytes (Data table))) :
    ∀ entry ∈ rows.map (removedEntry table tag), (0 : UInt8) ∉ entry.2 := by
  rw [List.forall_mem_map]
  exact fun row _ => readRemoved_noNul tag _ _ (readRemoved_row table tag row)

theorem readRemoved_rows (table : Table) (tag : Bytes) (rows : List (Keyed.Row Bytes (Data table))) :
    (rows.map fun row => [lit "id", lit "tags"].map fun name =>
        columnOf ((rowLayout table).get row name)).mapM (readRemoved tag)
      = .ok (rows.map (removedEntry table tag)) := by
  have entries : readRemoved tag ∘ (fun row => [lit "id", lit "tags"].map fun name =>
      columnOf ((rowLayout table).get row name)) = fun row => .ok (removedEntry table tag row) :=
    funext (readRemoved_row table tag)
  rw [List.mapM_map, entries]
  exact List.mapM_pure

include engine in
/-- The rows that a query found, in the order of the loop. -/
theorem dbSelect_removed {authorizer : Action → Bool} (table : Table) (expr tag : Bytes) (db : Db)
    (isExpr : engine.RowExpression expr) (selects : Selects sqlite authorizer table expr db) :
    ∃ order after,
      List.Perm order ((engine.contents db table).select (engine.holds db table expr)) ∧
      dbSelect sqlite authorizer (readRemoved tag) (selectText (lit "id, tags") table expr) db
        = .ok (.ok (order.map (removedEntry table tag)), after) ∧
      engine.contents after = engine.contents db := by
  rcases selects with ⟨execution, prepared, finished⟩
  have selected := engine.select_done authorizer table _ expr db execution isExpr
    (List.cons_ne_nil _ _) (removeNames_known table) prepared finished
  rcases Keyed.exists_perm_of_map _ selected.1 with ⟨order, perm, rows⟩
  refine ⟨order.reverse, execution.final, (List.reverse_perm _).trans perm, ?_, selected.2⟩
  have text : selectText (lit "id, tags") table expr
      = statement (selectHead (nameList [lit "id", lit "tags"]) table) expr := rfl
  have read : execution.rows.mapM (readRemoved tag) = .ok (order.map (removedEntry table tag)) := by
    rw [rows]
    exact readRemoved_rows table tag order
  simp only [dbSelect, text, prepared, stepRows_eq, read]
  simp [Except.map, collected, finished, List.map_reverse]

/-- After the query comes the loop, between statements that keep the tables. -/
theorem dbRemoveTagExpr_loop {authorizer : Action → Bool} (healthy : engine.Healthy authorizer)
    (table : Table) (suffix expr tag : Bytes) (db : Db) (isExpr : engine.RowExpression expr)
    (valid : validateTag tag = .ok ())
    (selects : Selects sqlite authorizer table expr db) :
    ∃ order start last,
      List.Perm order ((engine.contents db table).select (engine.holds db table expr)) ∧
      engine.contents start = engine.contents db ∧
      dbRemoveTagExpr sqlite authorizer table suffix expr tag db
        = .ok ((removeTagLoop sqlite authorizer table suffix
            (order.map (removedEntry table tag)) 0 start).1, last) ∧
      engine.contents last
        = engine.contents (removeTagLoop sqlite authorizer table suffix
            (order.map (removedEntry table tag)) 0 start).2 := by
  rcases dbSelect_removed engine table expr tag db isExpr selects with
    ⟨order, after, perm, selected, kept⟩
  have ran : dbRemoveTagExpr sqlite authorizer table suffix expr tag db
      = .ok (removeTagRows sqlite authorizer table suffix (order.map (removedEntry table tag))
          after) := by
    rw [dbRemoveTagExpr, valid]
    dsimp only
    rw [selected]
    rfl
  refine ⟨order, _, _, perm, ?_, ran.trans rfl, ?_⟩
  · exact (dbRunStmt_contents engine healthy _ _).trans
      ((dbRunStmt_contents engine healthy _ _).trans kept)
  · exact (dbRunStmt_contents engine healthy _ _).trans (dbRunStmt_contents engine healthy _ _)

/-- The quote behind the literal opens it again, and nothing closes it. -/
theorem scan_albumUpdate (id : Int) (tags : Bytes) :
    scan .between (albumUpdate id tags)
      = ([.word (lit "update"), .word (lit "album"), .word (lit "set"), .word (lit "tags"),
          .symbol 61], .literal (tags ++ [apostrophe] ++ (lit " where id = " ++ decimal id ++ lit " ;"))) := by
  have rest : apostrophe ∉ lit " where id = " ++ decimal id ++ lit " ;" := by
    have digits := notMem_decimal apostrophe (by decide) (by decide) id
    simp only [List.mem_append, digits, not_or, not_false_eq_true, and_true]
    decide
  have front : scan .between (lit "update album set tags = ")
      = ([.word (lit "update"), .word (lit "album"), .word (lit "set"), .word (lit "tags"),
          .symbol 61], .between) := rfl
  have reopened : scan (.quoted tags) (lit "'") = ([], .literal (tags ++ [apostrophe])) := rfl
  have open_ := scan_doubled (lit " where id = " ++ decimal id ++ lit " ;") (tags ++ [apostrophe])
  rw [doubled_plain _ rest] at open_
  have whole := scan_then (scan_then (scan_then front (scan_quoted tags)) reopened) open_
  have text : lit "update album set tags = " ++ quoted tags ++ lit "'"
        ++ (lit " where id = " ++ decimal id ++ lit " ;") = albumUpdate id tags := by
    simp only [albumUpdate, List.append_assoc]
    rfl
  rw [text] at whole
  simpa using whole

theorem sqlUpdateEntry_album {authorizer : Action → Bool} (healthy : engine.Healthy authorizer)
    (id : Int) (tags : Bytes) (db : Db) :
    ∃ errmsg, sqlUpdateEntry sqlite authorizer .album (lit "tags = " ++ escapeString tags ++ lit "'")
      (lit "id = " ++ decimal id) db = (.error (prepareError errmsg), db) := by
  have refused := healthy.open_literal id tags _ _ db (scan_albumUpdate id tags)
  have text : lit "update " ++ Table.album.name ++ lit " set "
        ++ (lit "tags = " ++ escapeString tags ++ lit "'") ++ lit " where "
        ++ (lit "id = " ++ decimal id) ++ lit " ;" = albumUpdate id tags := by
    simp only [albumUpdate, List.append_assoc]
    rfl
  rw [Prepares] at refused
  cases prepared : sqlite.prepare authorizer (albumUpdate id tags) db with
  | ok execution => exact absurd ⟨execution, prepared⟩ refused
  | error errmsg =>
      refine ⟨errmsg, ?_⟩
      simp only [sqlUpdateEntry, text, prepared]

/-- The ids of the rows are passed through an `int`. -/
def Engine.Removable (table : Table) (expr : Bytes) (db : Db) : Prop :=
  (engine.contents db table).select (engine.holds db table expr) = [] ∨
    (table ≠ .album ∧ ∀ row ∈ (engine.contents db table).select (engine.holds db table expr),
      intMin ≤ row.id ∧ row.id ≤ intMax)

theorem rowCount_le (table : Table) (tables : Database) (id : Int) : rowCount table tables id ≤ 1 :=
  (tables table).select_id_le id

theorem rowCount_mem (table : Table) (tables : Database) (row : Keyed.Row Bytes (Data table))
    (member : row ∈ (tables table).rows) : rowCount table tables row.id = 1 :=
  (tables table).select_id_mem row member

theorem rowCount_absent (table : Table) (tables : Database) (id : Int)
    (absent : ∀ row ∈ (tables table).rows, row.id ≠ id) : rowCount table tables id = 0 := by
  have none : (tables table).select (isRow id) = [] :=
    List.filter_eq_nil_iff.mpr fun row member => by simpa [isRow] using absent row member
  rw [rowCount, none, List.length_nil]

theorem sum_le_length (counts : List Nat) (small : ∀ count ∈ counts, count ≤ 1) :
    counts.sum ≤ counts.length := by
  induction counts with
  | nil => exact le_refl 0
  | cons count counts ih =>
      have later := ih fun other member => small other (List.mem_cons_of_mem _ member)
      have first := small count List.mem_cons_self
      rw [List.sum_cons, List.length_cons]
      omega

theorem sum_eq_length (counts : List Nat) (all : ∀ count ∈ counts, count = 1) :
    counts.sum = counts.length := by
  rw [List.eq_replicate_iff.mpr ⟨rfl, all⟩]
  simp

theorem lookup_entry (table : Table) (tag : Bytes) (rows : List (Keyed.Row Bytes (Data table)))
    (fits : ∀ row ∈ rows, wrapInt row.id = row.id) (row : Keyed.Row Bytes (Data table))
    (member : row ∈ rows) (own : ∀ other ∈ rows, other.id = row.id → other = row) :
    (rows.map (removedEntry table tag)).lookup row.id
      = some (removedTags tag (countersOf table row.data).tags) := by
  induction rows with
  | nil => cases member
  | cons first rows ih =>
      rw [List.map_cons, removedEntry, fits first List.mem_cons_self]
      by_cases same : first.id = row.id
      · rw [own first List.mem_cons_self same, List.lookup_cons_self]
      · have differs : (row.id == first.id) = false :=
          beq_eq_false_iff_ne.mpr (Ne.symm same)
        have inRows : row ∈ rows := by
          rcases List.mem_cons.mp member with rfl | inRows
          · exact absurd rfl same
          · exact inRows
        rw [List.lookup_cons, differs]
        exact ih (fun other later => fits other (List.mem_cons_of_mem _ later)) inRows
          fun other later => own other (List.mem_cons_of_mem _ later)

theorem lookup_absent (table : Table) (tag : Bytes) (rows : List (Keyed.Row Bytes (Data table)))
    (fits : ∀ row ∈ rows, wrapInt row.id = row.id) (row : Keyed.Row Bytes (Data table))
    (absent : ∀ other ∈ rows, other.id ≠ row.id) :
    (rows.map (removedEntry table tag)).lookup row.id = none := by
  rw [List.lookup_eq_none_iff]
  intro entry member
  rcases List.mem_map.mp member with ⟨other, inRows, rfl⟩
  rw [removedEntry, fits other inRows]
  exact bne_iff_ne.mpr (absent other inRows).symm

theorem removedEntry_distinct (table : Table) (tag : Bytes)
    (rows : List (Keyed.Row Bytes (Data table))) (fits : ∀ row ∈ rows, wrapInt row.id = row.id)
    (distinct : (rows.map Keyed.Row.id).Nodup) :
    ((rows.map (removedEntry table tag)).map Prod.fst).Nodup := by
  have ids : (rows.map (removedEntry table tag)).map Prod.fst = rows.map Keyed.Row.id := by
    rw [List.map_map]
    apply List.map_congr_left
    intro row member
    rw [Function.comp_apply, removedEntry_id, fits row member]
  rw [ids]
  exact distinct

/-- Each turn changes one row. -/
theorem removedEntry_counts (table : Table) (tag : Bytes) (tables : Database)
    (rows : List (Keyed.Row Bytes (Data table))) (fits : ∀ row ∈ rows, wrapInt row.id = row.id)
    (inTable : ∀ row ∈ rows, row ∈ (tables table).rows) :
    ((rows.map (removedEntry table tag)).map fun entry => rowCount table tables entry.1).sum
      = rows.length := by
  have each : ∀ count ∈ (rows.map (removedEntry table tag)).map fun entry =>
      rowCount table tables entry.1, count = 1 := by
    intro count member
    rw [List.map_map] at member
    rcases List.mem_map.mp member with ⟨row, inRows, rfl⟩
    rw [Function.comp_apply, removedEntry, fits row inRows]
    exact rowCount_mem table tables row (inTable row inRows)
  rw [sum_eq_length _ each, List.length_map, List.length_map]

theorem removedEntry_counts_le (table : Table) (tag : Bytes) (tables : Database)
    (rows : List (Keyed.Row Bytes (Data table))) :
    ((rows.map (removedEntry table tag)).map fun entry => rowCount table tables entry.1).sum
      ≤ rows.length := by
  have each : ∀ count ∈ (rows.map (removedEntry table tag)).map fun entry =>
      rowCount table tables entry.1, count ≤ 1 := by
    intro count member
    rcases List.mem_map.mp member with ⟨entry, _, rfl⟩
    exact rowCount_le table tables entry.1
  simpa using sum_le_length _ each

/-- The turn of a row whose cut id is no row's changes nothing. -/
theorem removedEntry_counts_lt (table : Table) (tag : Bytes) (tables : Database)
    (rows : List (Keyed.Row Bytes (Data table))) (row : Keyed.Row Bytes (Data table))
    (member : row ∈ rows) (absent : ∀ other ∈ (tables table).rows, other.id ≠ wrapInt row.id) :
    ((rows.map (removedEntry table tag)).map fun entry => rowCount table tables entry.1).sum
      < rows.length := by
  rcases List.append_of_mem member with ⟨before, behind, split⟩
  have nothing : rowCount table tables (removedEntry table tag row).1 = 0 := by
    rw [removedEntry_id]
    exact rowCount_absent table tables _ absent
  have first := removedEntry_counts_le table tag tables before
  have last := removedEntry_counts_le table tag tables behind
  rw [split, List.map_append, List.map_append, List.map_cons, List.map_cons, List.sum_append,
    List.sum_cons, nothing, List.length_append, List.length_cons]
  omega

/-- The loop over the rows of a condition does to them what the removal of the tag means. -/
theorem removed_becomes {table : Table} {tag : Bytes} {before next : Keyed.Table Bytes (Data table)}
    {selected : Int → Bool} {rows : List (Keyed.Row Bytes (Data table))}
    (perm : rows.Perm (before.select selected)) (fits : ∀ row ∈ rows, wrapInt row.id = row.id)
    (becomes : before.Becomes (isAny (rows.map (removedEntry table tag)))
      (listedTagsOf table (rows.map (removedEntry table tag))) next) :
    before.Becomes selected (withoutTag table tag) next := by
  have inTable : ∀ row ∈ rows, row ∈ before.rows ∧ selected row.id = true :=
    fun row member => List.mem_filter.mp (perm.mem_iff.mp member)
  refine becomes.imp fun row member final changed => ?_
  refine ⟨changed.id, changed.key, fun chosen value wanted => ?_, fun unchosen => ?_⟩
  · have inRows : row ∈ rows := perm.mem_iff.mpr (List.mem_filter.mpr ⟨member, chosen⟩)
    have found := lookup_entry table tag rows fits row inRows fun twin inRows same =>
      before.eq_of_id (inTable twin inRows).1 member same
    refine changed.changed (by rw [isAny, found]; rfl) value ?_
    rw [listedTagsOf, found, Option.map_some, ← withoutTag_eq]
    exact wanted
  · have found := lookup_absent table tag rows fits row fun twin inRows same => by
      have equal := before.eq_of_id (inTable twin inRows).1 member same
      have held := (inTable twin inRows).2
      rw [equal, unchosen] at held
      cases held
    exact changed.kept (by rw [isAny, found]; rfl)

theorem removesTag_none {authorizer : Action → Bool} (healthy : engine.Healthy authorizer)
    (table : Table) (expr tag : Bytes) (db : Db) (isExpr : engine.RowExpression expr)
    (valid : validateTag tag = .ok ())
    (selects : Selects sqlite authorizer table expr db)
    (none : (engine.contents db table).select (engine.holds db table expr) = []) :
    RemovesTag engine authorizer table expr tag db := by
  rcases dbRemoveTagExpr_loop engine healthy table (removeTagSuffix table) expr tag db isExpr valid
    selects with ⟨order, start, last, perm, started, ran, kept⟩
  rw [none] at perm
  rw [perm.eq_nil] at ran kept
  have contents : engine.contents last = engine.contents db := kept.trans started
  refine ⟨0, last, (removeTagFunction_eq _ _ table expr tag db).trans ran,
    ⟨?_, fun other _ => by rw [contents]⟩, by simp [Engine.matching, none]⟩
  rw [contents]
  refine Keyed.Table.becomes_self _ _ fun row member => ?_
  have unselected : row ∉ (engine.contents db table).select (engine.holds db table expr) := by
    simp [none]
  simpa [Keyed.Table.select, member] using unselected

theorem removesTag_rows {authorizer : Action → Bool} (healthy : engine.Healthy authorizer)
    (table : Table) (expr tag : Bytes) (db : Db) (isExpr : engine.RowExpression expr)
    (valid : validateTag tag = .ok ())
    (selects : Selects sqlite authorizer table expr db)
    (other : table ≠ .album)
    (fits : ∀ row ∈ (engine.contents db table).select (engine.holds db table expr),
      intMin ≤ row.id ∧ row.id ≤ intMax) :
    RemovesTag engine authorizer table expr tag db := by
  rcases dbRemoveTagExpr_loop engine healthy table [] expr tag db isExpr valid selects with
    ⟨order, start, last, perm, started, ran, kept⟩
  rcases removeTagLoop_done engine healthy table (order.map (removedEntry table tag))
    (removedEntries_noNul table tag order) 0 start with
    ⟨next, looped, others, becomes, _⟩
  rw [looped] at ran kept
  rw [started] at ran becomes others
  have whole : ∀ row ∈ order, wrapInt row.id = row.id := fun row member =>
    (wrapInt_eq_iff row.id).mpr (fits row (perm.mem_iff.mp member))
  have inTable : ∀ row ∈ order, row ∈ (engine.contents db table).rows := fun row member =>
    List.mem_of_mem_filter (perm.mem_iff.mp member)
  have distinct : (order.map Keyed.Row.id).Nodup :=
    (perm.map _).nodup_iff.mpr
      ((List.filter_sublist.map _).nodup (engine.contents db table).distinct)
  have named := removeTagFunction_eq sqlite authorizer table expr tag db
  rw [removeTagSuffix_nil table other] at named
  refine ⟨_, last, named.trans ran, ⟨?_, ?_⟩, ?_⟩
  · rw [kept]
    exact removed_becomes perm whole (becomes (removedEntry_distinct table tag order whole distinct))
  · intro kind different
    rw [kept]
    exact others kind different
  · rw [removedEntry_counts table tag _ order whole inTable, perm.length_eq, Int.zero_add]
    rfl

/-- It tells that an id was cut: no row has the cut id, or the row of the id should change. -/
def Engine.CutShows (table : Table) (expr tag : Bytes) (db : Db) : Prop :=
  ∀ row ∈ (engine.contents db table).select (engine.holds db table expr),
    (intMin ≤ row.id ∧ row.id ≤ intMax) ∨
      (∀ other ∈ (engine.contents db table).rows, other.id ≠ wrapInt row.id) ∨
      withoutTag table tag row ≠ some row

/-- What the function needs: no row to change, or a table with a proper statement and rows whose ids
fit an `int`. -/
theorem removable_of_removesTag {authorizer : Action → Bool} (healthy : engine.Healthy authorizer)
    (table : Table) (expr tag : Bytes) (db : Db) (isExpr : engine.RowExpression expr)
    (valid : validateTag tag = .ok ()) (selects : Selects sqlite authorizer table expr db)
    (shows : engine.CutShows table expr tag db)
    (removes : RemovesTag engine authorizer table expr tag db) : engine.Removable table expr db := by
  rcases removes with ⟨changes, next, ran, updated, counted⟩
  rcases dbRemoveTagExpr_loop engine healthy table (removeTagSuffix table) expr tag db isExpr valid
    selects with ⟨order, start, last, perm, started, looped, kept⟩
  have named := removeTagFunction_eq sqlite authorizer table expr tag db
  have result := Except.ok.inj (ran.symm.trans (named.trans looped))
  cases order with
  | nil => exact Or.inl perm.symm.eq_nil
  | cons row order =>
      have proper : table ≠ .album := by
        rintro rfl
        rcases sqlUpdateEntry_album engine healthy (removedEntry .album tag row).1
          (removedEntry .album tag row).2 start with ⟨errmsg, failed⟩
        have suffix : removeTagSuffix .album = lit "'" := rfl
        have fails : removeTagLoop sqlite authorizer .album (lit "'")
            ((row :: order).map (removedEntry .album tag)) 0 start
            = (.error (prepareError errmsg), start) := by
          rw [List.map_cons, removeTagLoop, failed]
        rw [suffix, fails] at result
        cases (Prod.mk.inj result).1
      refine Or.inr ⟨proper, fun large member => ?_⟩
      have suffix := removeTagSuffix_nil table proper
      rcases removeTagLoop_done engine healthy table ((row :: order).map (removedEntry table tag))
        (removedEntries_noNul table tag _) 0 start with ⟨final, ran, _, _, still⟩
      rw [suffix, ran] at result kept
      rcases Prod.mk.inj result with ⟨total, rfl⟩
      rcases shows large member with fits | absent | changes
      · exact fits
      · -- one row less is changed than the expression has
        have fewer := removedEntry_counts_lt table tag (engine.contents db) (row :: order) large
          (perm.mem_iff.mpr member) absent
        have length := perm.length_eq
        rw [started] at total
        have equal := Except.ok.inj total
        rw [counted, Engine.matching] at equal
        omega
      · -- no turn has the id of the row, which is kept
        by_contra outside
        have inTable := (List.mem_filter.mp member).1
        have unlisted : large.id ∉ ((row :: order).map (removedEntry table tag)).map Prod.fst := by
          intro listed
          rw [List.map_map] at listed
          rcases List.mem_map.mp listed with ⟨other, _, cut⟩
          rw [Function.comp_apply, removedEntry_id] at cut
          exact outside (cut ▸ wrapInt_range other.id)
        have stays := still large (started ▸ inTable) unlisted
        rcases updated.becomes.mem inTable with ⟨value, inNext, becomes⟩
        rw [← kept] at stays
        have same := (engine.contents next table).eq_of_id inNext stays becomes.id
        have removed := becomes.changed (List.mem_filter.mp member).2 _ (withoutTag_eq table tag large)
        rw [withoutTag_eq, ← removed, same] at changes
        exact changes rfl

/-- Removing a tag works on every table but `album`, whose statement is not SQL for any row; and it
works on rows whose ids fit an `int`. -/
theorem removesTag_iff {authorizer : Action → Bool} (healthy : engine.Healthy authorizer)
    (table : Table) (expr tag : Bytes) (db : Db) (isExpr : engine.RowExpression expr)
    (valid : validateTag tag = .ok ()) (selects : Selects sqlite authorizer table expr db) :
    (engine.Removable table expr db → RemovesTag engine authorizer table expr tag db) ∧
      (engine.CutShows table expr tag db →
        RemovesTag engine authorizer table expr tag db → engine.Removable table expr db) := by
  constructor
  · rintro (none | ⟨other, fits⟩)
    · exact removesTag_none engine healthy table expr tag db isExpr valid selects none
    · exact removesTag_rows engine healthy table expr tag db isExpr valid selects other fits
  · exact removable_of_removesTag engine healthy table expr tag db isExpr valid selects

end RemoveTag

/-! ### An album -/

theorem smallEngine_healthy {authorizer : Action → Bool} (update : authorizer .update = true)
    (read : authorizer .read = true) : smallEngine.Healthy authorizer where
  updates := by
    intro table tags id db execution prepared
    have known := tagsBecome_known tags table
    have same := (smallPrepare_update authorizer table (tagsBecome tags) id db known.1
      known.2).symm.trans prepared
    rw [if_pos ⟨update, read⟩] at same
    cases same
    exact ⟨_, rfl⟩
  compiles := fun _ _ _ => ⟨update, read⟩
  maints := by
    intro stmt db
    simp only [smallSqlite]
    split <;> rfl
  open_literal := by
    rintro id tags tokens text db opened ⟨execution, prepared⟩
    have unread : lex (albumUpdate id tags) = none := by
      rw [lex, opened]
      rfl
    simp only [smallSqlite, smallPrepare, unread] at prepared
    cases prepared

theorem small_selects {authorizer : Action → Bool} (select : authorizer .select = true)
    (read : authorizer .read = true) (table : Table) (db : Small) :
    Selects smallSqlite authorizer table (idExpr 1) db := by
  have prepared := smallPrepare_select authorizer table _ 1 db (List.cons_ne_nil _ _)
    (removeNames_known table)
  rw [if_pos ⟨select, read⟩] at prepared
  exact ⟨_, prepared, (rowsExecution_spec db _).2.1⟩

/-- For a client that may update, which may not begin a transaction. -/
theorem removesTag_live :
    RemovesTag smallEngine (commandAuthorizer permissionUpdate) .song (idExpr 1) (lit "live")
      playedOnce := by
  refine (removesTag_iff smallEngine (smallEngine_healthy rfl rfl) .song (idExpr 1) (lit "live")
    playedOnce ⟨1, rfl⟩ (by decide) (small_selects rfl rfl .song playedOnce)).1
    (Or.inr ⟨by decide, fun row member => ?_⟩)
  have chosen := (List.mem_filter.mp member).2
  have holds : smallHolds (idExpr 1) row.id = true := chosen
  rw [smallHolds_idExpr, decide_eq_true_eq] at holds
  rw [holds]
  decide

/-- A song of an album is played. -/
def albumOnce : Small where
  tables table := (Database.empty table).upsertAny
    (({ firstPlay with song.album := some (lit "B") } : ProcessCall).upsertOf table)
  changed := 1

/-- No tag is removed from an album. -/
theorem removeTag_album_fails :
    smallEngine.Healthy (commandAuthorizer permissionUpdate) ∧
      smallEngine.RowExpression (idExpr 1) ∧ validateTag (lit "live") = .ok () ∧
      Selects smallSqlite (commandAuthorizer permissionUpdate) .album (idExpr 1) albumOnce ∧
      ¬ RemovesTag smallEngine (commandAuthorizer permissionUpdate) .album (idExpr 1) (lit "live")
        albumOnce := by
  refine ⟨smallEngine_healthy rfl rfl, ⟨1, rfl⟩, by decide, small_selects rfl rfl .album albumOnce,
    fun removes => ?_⟩
  have only : ((smallEngine.contents albumOnce .album).select
      (smallEngine.holds albumOnce .album (idExpr 1))).map Keyed.Row.id = [1] := by
    decide +kernel
  have shows : smallEngine.CutShows .album (idExpr 1) (lit "live") albumOnce := by
    intro row member
    have id := List.mem_map_of_mem (f := Keyed.Row.id) member
    rw [only, List.mem_singleton] at id
    rw [id]
    exact Or.inl (by decide)
  rcases removable_of_removesTag smallEngine (smallEngine_healthy rfl rfl) .album (idExpr 1)
    (lit "live") albumOnce ⟨1, rfl⟩ (by decide) (small_selects rfl rfl .album albumOnce) shows
    removes with none | proper
  · rw [none] at only
    cases only
  · exact proper.1 rfl

end Mpdcron.Stats
