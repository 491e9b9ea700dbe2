import Mpdcron.Stats.Engine
import Mpdcron.Stats.SmallSqlite

/-! `db_add_*_tag_expr`: what becomes of the rows, and of a tag with a quote in it. -/

namespace Mpdcron.Stats

open CString SqlText SqlRow

def addTagFunction {Db : Type} (sqlite : Sqlite Db) (authorizer : Action → Bool) :
    Table → Bytes → Bytes → Db → Except GError Int × Db
  | .song => dbAddSongTagExpr sqlite authorizer
  | .artist => dbAddArtistTagExpr sqlite authorizer
  | .album => dbAddAlbumTagExpr sqlite authorizer
  | .genre => dbAddGenreTagExpr sqlite authorizer

theorem addTagFunction_eq {Db : Type} (sqlite : Sqlite Db) (authorizer : Action → Bool)
    (table : Table) : addTagFunction sqlite authorizer table = dbAddTagExpr sqlite authorizer table := by
  cases table <;> rfl

/-- The row with its tags changed. -/
def withTags (table : Table) (tags : Bytes) (row : Keyed.Row Bytes (Data table)) :
    Keyed.Row Bytes (Data table) :=
  withCounters table (fun counters => { counters with tags := tags }) row

theorem tags_withTags (table : Table) (tags : Bytes) (row : Keyed.Row Bytes (Data table)) :
    (countersOf table (withTags table tags row).data).tags = tags := by
  rw [withTags, countersOf_withCounters]

/-- The row with one tag more. -/
def appendTag (table : Table) (tag : Bytes) (row : Keyed.Row Bytes (Data table)) :
    Keyed.Row Bytes (Data table) :=
  withTags table ((countersOf table row.data).tags ++ tag ++ [colon]) row

section AddTag

variable {Db : Type} {sqlite : Sqlite Db} (engine : Engine sqlite)

/-- A call that returns true has added the tag to the rows of the expression, has changed nothing
else and tells how many they are; and no call is rejected for its SQL that the rest of the statement
would not be rejected for. -/
structure AddsTag (authorizer : Action → Bool) (table : Table) (expr tag : Bytes) (db : Db) :
    Prop where
  added : ∀ changes next,
    addTagFunction sqlite authorizer table expr tag db = (.ok changes, next) →
      engine.Updated table expr (fun row => some (appendTag table tag row)) db next ∧
        changes = engine.matching table expr db
  wellFormed : engine.compiles authorizer table [lit "tags", lit "tags"] expr db →
    ∀ errmsg next,
      addTagFunction sqlite authorizer table expr tag db ≠ (.error (prepareError errmsg), next)

theorem get_tags (table : Table) (row : Keyed.Row Bytes (Data table)) :
    (rowLayout table).get row (lit "tags") = some (.text (countersOf table row.data).tags) := by
  cases table <;> rfl

theorem set_tags (table : Table) (row : Keyed.Row Bytes (Data table)) (tags : Bytes) :
    (rowLayout table).set row (lit "tags") (.text tags) = some (withTags table tags row) := by
  cases table <;> rfl

/-- Appending a literal to the column. -/
theorem apply_concat (table : Table) (text : Bytes) (row : Keyed.Row Bytes (Data table)) :
    (Assignment.mk (lit "tags") (.concat (lit "tags") (.literal text))).apply (rowLayout table) row
      = some (withTags table ((countersOf table row.data).tags ++ text) row) := by
  simp only [Assignment.apply, Expr.eval, Operand.eval, get_tags, joined, Option.bind_some, set_tags]

theorem runStatement_refused {Db : Type} (sqlite : Sqlite Db) (authorizer : Action → Bool)
    (sql : Bytes) (db : Db) (errmsg : Bytes)
    (refused : sqlite.prepare authorizer sql db = .error errmsg) :
    runStatement sqlite authorizer sql db = (.error (prepareError errmsg), db) := by
  rw [runStatement, refused]

theorem runStatement_run {Db : Type} (sqlite : Sqlite Db) (authorizer : Action → Bool)
    (sql : Bytes) (db next : Db) (execution : Execution Db)
    (prepared : sqlite.prepare authorizer sql db = .ok execution)
    (stepped : dbStep execution = (.done, next)) :
    runStatement sqlite authorizer sql db = (.ok (sqlite.changes next), next) := by
  rw [runStatement, prepared]
  simp only [stepped]
  rfl

theorem runStatement_prepareError (authorizer : Action → Bool) (sql : Bytes) (db next : Db)
    (errmsg : Bytes)
    (ran : runStatement sqlite authorizer sql db = (.error (prepareError errmsg), next)) :
    ¬ Prepares sqlite authorizer sql db := by
  rintro ⟨execution, prepared⟩
  rw [runStatement, prepared] at ran
  have outcome := (Prod.mk.inj ran).1
  have codes : ackErrorDatabaseStep ≠ ackErrorDatabasePrepare := by decide
  cases stepped : (dbStep execution).1 with
  | done =>
      rw [stepped] at outcome
      cases outcome
  | row =>
      rw [stepped] at outcome
      exact codes (congrArg GError.code (Except.error.inj outcome))
  | failed message =>
      rw [stepped] at outcome
      exact codes (congrArg GError.code (Except.error.inj outcome))

/-- A tag without a quote is added. -/
theorem addsTag_of_plain (authorizer : Action → Bool) (table : Table) (expr tag : Bytes) (db : Db)
    (isExpr : engine.RowExpression expr) (valid : validateTag tag = .ok ())
    (noNul : (0 : UInt8) ∉ tag) (plain : apostrophe ∉ tag) : AddsTag engine authorizer table expr tag db where
  added := by
    intro changes next ran
    rw [addTagFunction_eq] at ran
    have done := engine.change_done authorizer (.addTag table tag) valid plain expr isExpr db next
      changes (congrArg Except.ok ran)
    have applied : (Change.addTag table tag).assignment.apply (rowLayout table)
        = fun row => some (appendTag table tag row) := by
      funext row
      rw [appendTag, List.append_assoc]
      exact apply_concat table (tag ++ [colon]) row
    exact ⟨applied ▸ done.1, done.2⟩
  wellFormed := by
    intro compiles errmsg next ran
    rw [addTagFunction_eq] at ran
    have whole := (Change.addTag table tag).run_statement sqlite authorizer valid expr db
    have text := (Change.addTag table tag).stmt_noNul noNul
    rw [(Change.addTag table tag).stmt_eq plain] at whole text
    have statement := (Except.ok.inj whole).symm.trans ran
    exact runStatement_prepareError authorizer _ db next errmsg statement
      ((engine.update_compiles authorizer table _ expr db isExpr text
        (Change.addTag table tag).written (Change.addTag table tag).known).mpr compiles)

end AddTag

/-! ### A tag with a quote -/

/-- The first literal that ends in a text is not longer than this. -/
def LiteralWithin (bound : Nat) (result : List SqlText.Token × Mode) : Prop :=
  ∃ text later, result.1 = .literal text :: later ∧ text.length ≤ bound

theorem LiteralWithin.mono {bound larger : Nat} {result : List SqlText.Token × Mode}
    (within : LiteralWithin bound result) (le : bound ≤ larger) : LiteralWithin larger result := by
  rcases within with ⟨text, later, first, short⟩
  exact ⟨text, later, first, short.trans le⟩

/-- What the literal behind the tag ends with. -/
def literalEnd : Bytes := [colon, apostrophe, 32]

/-- Each quote of the tag makes its literal shorter. The induction is on the tag, in a literal and
behind a quote of it. -/
theorem scan_tag (tag : Bytes) : ∀ before : Bytes,
    LiteralWithin (before.length + tag.length + 1) (scan (.literal before) (tag ++ literalEnd)) ∧
      (apostrophe ∈ tag →
        LiteralWithin (before.length + tag.length) (scan (.literal before) (tag ++ literalEnd))) ∧
      LiteralWithin (before.length + tag.length + 1) (scan (.quoted before) (tag ++ literalEnd)) := by
  induction tag with
  | nil =>
      intro before
      refine ⟨⟨before ++ [colon], [], rfl, by simp⟩, fun quote => (by cases quote), ?_⟩
      exact ⟨before, _, rfl, by simp⟩
  | cons ch tag ih =>
      intro before
      have longer : (before ++ [ch]).length = before.length + 1 := by simp
      rcases ih (before ++ [ch]) with ⟨plain, quotes, _⟩
      have later := (ih before).2.2
      rw [longer] at plain quotes
      rw [List.length_cons]
      by_cases quote : ch = apostrophe
      · have opens : scan (.literal before) (ch :: tag ++ literalEnd)
            = scan (.quoted before) (tag ++ literalEnd) := by
          rw [quote, List.cons_append, scan]
          rfl
        have doubled : scan (.quoted before) (ch :: tag ++ literalEnd)
            = scan (.literal (before ++ [ch])) (tag ++ literalEnd) := by
          rw [quote, List.cons_append, scan]
          rfl
        rw [opens, doubled]
        exact ⟨later.mono (by omega), fun _ => later.mono (by omega), plain.mono (by omega)⟩
      · have stays : scan (.literal before) (ch :: tag ++ literalEnd)
            = scan (.literal (before ++ [ch])) (tag ++ literalEnd) := by
          rw [List.cons_append, scan, step, if_neg quote]
          rfl
        have ends : LiteralWithin before.length (scan (.quoted before) (ch :: tag ++ literalEnd)) := by
          rw [List.cons_append, scan, step, if_neg quote]
          exact ⟨before, _, rfl, le_refl _⟩
        rw [stays]
        refine ⟨plain.mono (by omega), fun member => ?_, ends.mono (by omega)⟩
        have inTag : apostrophe ∈ tag := by
          rcases List.mem_cons.mp member with same | inTag
          · exact absurd same.symm quote
          · exact inTag
        exact (quotes inTag).mono (by omega)

/-- The tokens of the statement up to the literal. -/
def addTagTokens : List SqlText.Token :=
  [.word (lit "update"), .word (lit "song"), .word (lit "set"), .word (lit "tags"), .symbol 61,
    .word (lit "tags"), .symbol 124, .symbol 124]

theorem scan_addTag_text (tag : Bytes) :
    ∃ text rest mode, scan .between (statement (updateHead .song (Change.addTag .song tag).stmt) (idExpr 1))
        = (addTagTokens ++ .literal text :: rest, mode) ∧
      text.length ≤ tag.length + 1 ∧ (apostrophe ∈ tag → text.length ≤ tag.length) := by
  have front : scan .between (lit "update song set tags = tags || '") = (addTagTokens, .literal []) :=
    rfl
  have text : statement (updateHead .song (Change.addTag .song tag).stmt) (idExpr 1)
      = lit "update song set tags = tags || '" ++ (tag ++ literalEnd)
        ++ (lit "where " ++ idExpr 1 ++ lit " ;") := by
    simp only [statement, updateHead, Change.stmt, List.append_assoc]
    rfl
  have literal := scan_tag tag []
  rcases literal.1 with ⟨first, later, ends, short⟩
  have whole := scan_then (scan_then front
    (Prod.ext ends rfl : scan (.literal []) (tag ++ literalEnd) = (_, _))) (Prod.ext rfl rfl :
      scan (scan (.literal []) (tag ++ literalEnd)).2 (lit "where " ++ idExpr 1 ++ lit " ;") = (_, _))
  rw [← text, List.append_assoc, List.cons_append] at whole
  refine ⟨first, _, _, whole, by simpa using short, fun quote => ?_⟩
  rcases literal.2.1 quote with ⟨other, more, same, shorter⟩
  rw [ends] at same
  cases same
  simpa using shorter

/-- What appends a literal to the tags. -/
def tagsWith (text : Bytes) : Assignment := ⟨lit "tags", .concat (lit "tags") (.literal text)⟩

theorem readUpdate_addTag (text : Bytes) (rest : List SqlText.Token) :
    readUpdate (addTagTokens ++ .literal text :: rest)
      = if rest = [] then some (.song, tagsWith text) else none := by
  have written : lit "tags" ∈ Table.song.writtenNames := List.mem_of_getElem? (i := 4) rfl
  have known : lit "tags" ∈ Table.song.columnNames := written_subset .song written
  have named : readTable (lit "song") = some .song := readTable_name .song
  cases rest with
  | nil =>
      simp [addTagTokens, readUpdate, named, readAssignment, readExpr, readOperand, tagsWith,
        Assignment.columns, Expr.columns, Operand.columns, written, known]
  | cons token rest =>
      simp [addTagTokens, readUpdate, named, readAssignment, readExpr, readOperand, readNumber]

/-- The small SQLite refuses the statement or appends its first literal to some rows. -/
theorem smallPrepare_addTag (sql text : Bytes) (rest : List SqlText.Token) (mode : Mode)
    (scanned : scan .between sql = (addTagTokens ++ .literal text :: rest, mode)) (db : Small) :
    (∃ errmsg, smallPrepare (fun _ => true) sql db = .error errmsg) ∨
      ∃ selected, smallPrepare (fun _ => true) sql db
        = .ok (.done (db.update .song (tagsWith text) selected)) := by
  rw [smallPrepare]
  cases read : lex sql with
  | none => exact Or.inl ⟨_, rfl⟩
  | some tokens =>
      have ended : ∃ more, tokens = addTagTokens ++ .literal text :: more := by
        rw [lex, scanned] at read
        rcases Option.map_eq_some_iff.mp read with ⟨last, _, same⟩
        exact ⟨rest ++ last, by rw [← same, List.append_assoc]; rfl⟩
      rcases ended with ⟨more, rfl⟩
      have front : frontTokens (addTagTokens ++ .literal text :: more)
          = addTagTokens ++ .literal text :: frontTokens more := by
        have others : ∀ token ∈ addTagTokens ++ [.literal text],
            decide (token ≠ .word (lit "where")) := by
          intro token member
          simp only [addTagTokens, List.cons_append, List.nil_append, List.mem_cons,
            List.not_mem_nil, or_false] at member
          rcases member with rfl | rfl | rfl | rfl | rfl | rfl | rfl | rfl | rfl <;> simp <;> decide
        have whole : frontTokens ((addTagTokens ++ [.literal text]) ++ more)
            = (addTagTokens ++ [.literal text]) ++ frontTokens more :=
          List.takeWhile_append_of_pos others
        rw [List.append_assoc] at whole
        exact whole
      have select : readSelect (addTagTokens ++ .literal text :: frontTokens more) = none := by
        rw [addTagTokens, List.cons_append, readSelect, if_neg (by decide)]
      dsimp only
      cases readId (whereTokens (addTagTokens ++ .literal text :: more)) with
      | none => exact Or.inl ⟨_, rfl⟩
      | some id =>
          dsimp only
          rw [front, select, readUpdate_addTag]
          split
          · exact Or.inr ⟨_, rfl⟩
          · exact Or.inl ⟨_, rfl⟩

theorem playedRow_tags : (countersOf .song playedRow.data).tags = [colon] := rfl

/-- It never adds a tag that has a quote. -/
theorem not_addsTag_of_quote (tag : Bytes) (valid : validateTag tag = .ok ())
    (quote : apostrophe ∈ tag) :
    ¬ AddsTag smallEngine (fun _ => true) .song (idExpr 1) tag playedOnce := by
  rintro ⟨added, wellFormed⟩
  rcases scan_addTag_text tag with ⟨text, rest, mode, scanned, -, short⟩
  have ran := Except.ok.inj ((Change.addTag .song tag).run_statement smallSqlite (fun _ => true) valid
    (idExpr 1) playedOnce)
  change addTagFunction smallSqlite (fun _ => true) .song (idExpr 1) tag playedOnce = _ at ran
  rcases smallPrepare_addTag _ text rest mode scanned playedOnce with
    ⟨errmsg, refused⟩ | ⟨selected, prepared⟩
  · have rejected := runStatement_refused smallSqlite _ _ playedOnce errmsg refused
    exact wellFormed ⟨rfl, rfl⟩ errmsg playedOnce (ran.trans rejected)
  · have done := runStatement_run smallSqlite _ _ playedOnce _ _ prepared rfl
    have updated := (added _ _ (ran.trans done)).1.becomes
    rcases updated.find playedOnce_row with ⟨row, found, wanted⟩
    rcases (playedOnce.update_becomes .song (tagsWith text) selected).find playedOnce_row with
      ⟨other, alsoFound, actual⟩
    have same : row = other := Option.some.inj (found.symm.trans alsoFound)
    have holds : smallHolds (idExpr 1) playedRow.id = true := by
      rw [smallHolds_idExpr]
      rfl
    have long : (countersOf .song row.data).tags.length = tag.length + 2 := by
      rw [wanted.changed holds _ rfl, appendTag, tags_withTags]
      simp [playedRow_tags]
    have bounded : (countersOf .song other.data).tags.length ≤ tag.length + 1 := by
      cases chosen : selected playedRow.id with
      | false =>
          rw [actual.kept chosen, playedRow_tags, List.length_singleton]
          omega
      | true =>
          rw [actual.changed chosen _ (apply_concat .song text playedRow), tags_withTags,
            playedRow_tags, List.length_append, List.length_singleton]
          have fewer := short quote
          omega
    rw [same] at long
    omega

/-- A valid tag is added, whatever else the engine does, exactly if there is no quote in it. -/
theorem addsTag_iff (tag : Bytes) (noNul : (0 : UInt8) ∉ tag) (valid : validateTag tag = .ok ()) :
    (∀ (Db : Type) (sqlite : Sqlite Db) (engine : Engine sqlite) (authorizer : Action → Bool)
      (table : Table) (expr : Bytes) (db : Db), engine.RowExpression expr →
        AddsTag engine authorizer table expr tag db) ↔ apostrophe ∉ tag := by
  constructor
  · intro adds quote
    exact not_addsTag_of_quote tag valid quote
      (adds Small smallSqlite smallEngine (fun _ => true) .song (idExpr 1) playedOnce ⟨1, rfl⟩)
  · intro plain Db sqlite engine authorizer table expr db isExpr
    exact addsTag_of_plain engine authorizer table expr tag db isExpr valid noNul plain

theorem addsTag_live : AddsTag smallEngine (fun _ => true) .song (idExpr 1) (lit "live") playedOnce :=
  (addsTag_iff (lit "live") (by decide) (by decide)).mpr (by decide) Small smallSqlite smallEngine (fun _ => true)
    .song (idExpr 1) playedOnce ⟨1, rfl⟩

/-- A valid tag whose statement is no SQL. -/
theorem addTag_rejected :
    validateTag (lit "it's") = .ok () ∧
      smallEngine.compiles (fun _ => true) .song [lit "tags", lit "tags"] (idExpr 1) playedOnce ∧
      addTagFunction smallSqlite (fun _ => true) .song (idExpr 1) (lit "it's") playedOnce
        = (.error (prepareError (lit "unrecognized token")), playedOnce) ∧
      ¬ AddsTag smallEngine (fun _ => true) .song (idExpr 1) (lit "it's") playedOnce := by
  have valid : validateTag (lit "it's") = .ok () := by decide
  have unread : lex (statement (updateHead .song (Change.addTag .song (lit "it's")).stmt) (idExpr 1))
      = none := by
    decide +kernel
  have refused : smallPrepare (fun _ => true)
      (statement (updateHead .song (Change.addTag .song (lit "it's")).stmt) (idExpr 1)) playedOnce
      = .error (lit "unrecognized token") := by
    rw [smallPrepare, unread]
  have ran : addTagFunction smallSqlite (fun _ => true) .song (idExpr 1) (lit "it's") playedOnce = _ :=
    Except.ok.inj ((Change.addTag .song (lit "it's")).run_statement smallSqlite (fun _ => true) valid
      (idExpr 1) playedOnce)
  have rejected : addTagFunction smallSqlite (fun _ => true) .song (idExpr 1) (lit "it's") playedOnce
      = (.error (prepareError (lit "unrecognized token")), playedOnce) := by
    rw [ran]
    exact runStatement_refused smallSqlite _ _ playedOnce _ refused
  exact ⟨valid, ⟨rfl, rfl⟩, rejected, fun adds => adds.wellFormed ⟨rfl, rfl⟩ _ _ rejected⟩

end Mpdcron.Stats
