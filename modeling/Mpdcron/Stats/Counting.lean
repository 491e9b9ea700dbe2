import Mpdcron.Stats.Engine
import Mpdcron.Stats.PlayCounts
import Mpdcron.Stats.Reply
import Mpdcron.Stats.SmallSqlite

/-! The sums in `play_count` and `rating` under counts, rates and plays, and what `listinfo` reports
of them. -/

namespace Mpdcron.Stats

open CString SqlText SqlRow Player Script

/-- A play count and a rating, or what is added to them. -/
structure Amounts where
  plays : Int
  rating : Int
  deriving DecidableEq, Repr

def Amounts.none : Amounts := ⟨0, 0⟩

def Amounts.plus (sums amounts : Amounts) : Amounts :=
  ⟨sums.plays + amounts.plays, sums.rating + amounts.rating⟩

def FitsInt (value : Int) : Prop := intMin ≤ value ∧ value ≤ intMax

def Amounts.Fits (amounts : Amounts) : Prop := FitsInt amounts.plays ∧ FitsInt amounts.rating

theorem Amounts.plus_none (sums : Amounts) : sums.plus .none = sums := by
  simp [Amounts.plus, Amounts.none]

theorem Amounts.none_fits : Amounts.none.Fits := by
  simp only [Amounts.Fits, Amounts.none, FitsInt]
  decide

def Counters.sums (counters : Counters) : Amounts := ⟨counters.playCount, counters.rating⟩

def Counters.added (amounts : Amounts) (counters : Counters) : Counters :=
  { counters with
    playCount := counters.playCount + amounts.plays
    rating := counters.rating + amounts.rating }

/-! ### The commands -/

section Handlers

variable {Db : Type} (host : Host Db)

def countHandler : Table → Handler Db
  | .song => handleCount host
  | .artist => handleCountArtist host
  | .album => handleCountAlbum host
  | .genre => handleCountGenre host

def rateHandler : Table → Handler Db
  | .song => handleRate host
  | .artist => handleRateArtist host
  | .album => handleRateAlbum host
  | .genre => handleRateGenre host

def listinfoHandler : Table → Handler Db
  | .song => handleListinfo host
  | .artist => handleListinfoArtist host
  | .album => handleListinfoAlbum host
  | .genre => handleListinfoGenre host

theorem countHandler_eq (table : Table) :
    countHandler host table = handleNumber (dbCountExpr host.sqlite · table) := by
  cases table <;> rfl

theorem rateHandler_eq (table : Table) :
    rateHandler host table = handleNumber (dbRateExpr host.sqlite · table) := by
  cases table <;> rfl

/-- The columns that `listinfo` selects. -/
def infoNames : Table → List Bytes
  | .song =>
      [lit "id", lit "play_count", lit "love", lit "kill", lit "rating", lit "karma",
        lit "last_played", lit "uri"]
  | .album =>
      [lit "id", lit "play_count", lit "name", lit "artist", lit "love", lit "kill", lit "rating"]
  | _ => [lit "id", lit "play_count", lit "name", lit "love", lit "kill", lit "rating"]

/-- The lines that `listinfo` prints of a row. -/
def infoLines : Table → Columns → Except Fault (List Bytes)
  | .song, columns => do
      let song := readListinfoSong columns
      return songLines song ++ songCountLines song
        ++ (← lastPlayedLines host.strftime song.lastPlayed)
  | .album, columns =>
      .ok (albumLines (readListinfoAlbum columns) ++ countLines (readListinfoAlbum columns))
  | .artist, columns =>
      .ok (genericLines "Artist" (readListinfoGeneric columns)
        ++ countLines (readListinfoGeneric columns))
  | .genre, columns =>
      .ok (genericLines "Genre" (readListinfoGeneric columns)
        ++ countLines (readListinfoGeneric columns))

/-- The play count and the rating in what was read of a row. -/
def reported : Table → Columns → Amounts
  | .song, columns => ⟨(readListinfoSong columns).playCount, (readListinfoSong columns).rating⟩
  | .album, columns => ⟨(readListinfoAlbum columns).playCount, (readListinfoAlbum columns).rating⟩
  | _, columns => ⟨(readListinfoGeneric columns).playCount, (readListinfoGeneric columns).rating⟩

theorem listinfoHandler_replies (table : Table) :
    Replies (listinfoHandler host table)
      (Listing.reply host.sqlite ⟨nameList (infoNames table), table, infoLines host table⟩) := by
  cases table <;> exact handleSelect_replies host.sqlite _ _ _ _

/-- They are printed. -/
theorem infoLines_reported (table : Table) (columns : Columns) (lines : List Bytes)
    (printed : infoLines host table columns = .ok lines) :
    numberLine "Play Count" (reported table columns).plays ∈ lines ∧
      numberLine "Rating" (reported table columns).rating ∈ lines := by
  have counted (data : DbGenericData) : numberLine "Play Count" data.playCount ∈ countLines data ∧
      numberLine "Rating" data.rating ∈ countLines data := by
    simp [countLines]
  cases table with
  | song =>
      simp only [infoLines] at printed
      cases times : lastPlayedLines host.strftime (readListinfoSong columns).lastPlayed with
      | error fault =>
          rw [times] at printed
          cases printed
      | ok texts =>
          rw [times] at printed
          cases printed
          simp [reported, songCountLines]
  | album =>
      cases printed
      exact ⟨List.mem_append_right _ (counted _).1, List.mem_append_right _ (counted _).2⟩
  | artist =>
      cases printed
      exact ⟨List.mem_append_right _ (counted _).1, List.mem_append_right _ (counted _).2⟩
  | genre =>
      cases printed
      exact ⟨List.mem_append_right _ (counted _).1, List.mem_append_right _ (counted _).2⟩

end Handlers

/-- What `listinfo` reports of a row. -/
def rowReport (table : Table) (row : Keyed.Row Bytes (Data table)) : Amounts :=
  reported table ((infoNames table).map fun name => columnOf ((rowLayout table).get row name))

/-- The accessor cuts the numbers to an `int`. -/
theorem rowReport_eq (table : Table) (row : Keyed.Row Bytes (Data table)) :
    rowReport table row = ⟨wrapInt (countersOf table row.data).playCount,
      wrapInt (countersOf table row.data).rating⟩ := by
  cases table <;> rfl

/-! ### The steps -/

theorem numberArg_fits (number : Bytes) (value : Int) (accepted : numberArg number = .ok value) :
    FitsInt value := by
  rw [numberArg] at accepted
  dsimp only at accepted
  split at accepted
  · cases accepted
  · split at accepted
    · cases accepted
    · split at accepted
      · cases accepted
      · rename_i inside
        cases accepted
        rw [FitsInt]
        omega

/-- What ends in an error is not accepted. -/
theorem commandError_not_ok {Db : Type} (client : Nat) (error : Int) (message : Bytes)
    (st next : State Db) :
    (do return (CommandReturn.error, ← commandError client error message st))
      ≠ Except.ok (CommandReturn.ok, next) := by
  rw [commandError]
  cases st.currentCommand with
  | none =>
      intro wrong
      cases wrong
  | some name =>
      intro wrong
      cases wrong

theorem handleNumber_ok {Db : Type}
    (update : (Action → Bool) → Bytes → Int → Db → Except GError Int × Db) (client : Nat)
    (command expr number : Bytes) (st next : State Db)
    (ran : handleNumber update client [command, expr, number] st = .ok (.ok, next)) :
    ∃ value changes, numberArg number = .ok value ∧
      update st.allowed expr value st.db = (.ok changes, next.db) := by
  rw [handleNumber] at ran
  cases checked : numberArg number with
  | error message =>
      rw [checked] at ran
      exact absurd ran (commandError_not_ok _ _ _ _ _)
  | ok value =>
      rw [checked] at ran
      dsimp only at ran
      rcases result : update st.allowed expr value st.db with ⟨outcome, db⟩
      rw [answerChanges, answer, result] at ran
      cases outcome with
      | error error => exact absurd ran (commandError_not_ok _ _ _ _ _)
      | ok changes =>
          cases ran
          exact ⟨value, changes, rfl, result⟩

theorem clampLong_of_fits (value : Int) (low : -2 ^ 62 ≤ value) (high : value ≤ 2 ^ 62) :
    clampLong value = value := by
  rw [clampLong]
  omega

theorem integer64_fits (value : Int) (low : -2 ^ 62 ≤ value) (high : value ≤ 2 ^ 62) :
    integer64 value = some (.integer value) := by
  rw [integer64, if_pos (clampLong_of_fits value low high)]

/-- The two changes that add to a counter. -/
def addition (table : Table) : Bool → Int → Change
  | true, value => .count table value
  | false, value => .rate table value

def additionAmounts : Bool → Int → Amounts
  | true, value => ⟨value, 0⟩
  | false, value => ⟨0, value⟩

/-- Two `int`s are added in a column. -/
theorem apply_add {ρ : Type} (layout : Layout ρ) (row next : ρ) (column : Bytes) (current value : Int)
    (small : FitsInt value) (fits : FitsInt current)
    (read : layout.get row column = some (.integer current))
    (write : layout.set row column (.integer (current + value)) = some next) :
    (Assignment.mk column (.add column (.grouped value))).apply layout row = some next := by
  rcases small with ⟨low, high⟩
  rcases fits with ⟨currentLow, currentHigh⟩
  simp only [intMin, intMax] at low high currentLow currentHigh
  have number := integer64_fits value (by omega) (by omega)
  have sum := integer64_fits (current + value) (by omega) (by omega)
  simp only [Assignment.apply, Expr.eval, Operand.eval, read, number, arithmetic, sum,
    Option.bind_some, write]

theorem apply_addition (table : Table) (plays : Bool) (value : Int)
    (row : Keyed.Row Bytes (Data table)) (small : FitsInt value)
    (fits : (countersOf table row.data).sums.Fits) :
    (addition table plays value).assignment.apply (rowLayout table) row
      = some (withCounters table (Counters.added (additionAmounts plays value)) row) := by
  cases plays with
  | true =>
      apply apply_add _ _ _ _ (countersOf table row.data).playCount value small fits.1
      · cases table <;> rfl
      · have same : Counters.added (additionAmounts true value)
            = fun counters => { counters with playCount := counters.playCount + value } := by
          funext counters
          simp only [Counters.added, additionAmounts, Int.add_zero]
        rw [same]
        cases table <;> rfl
  | false =>
      apply apply_add _ _ _ _ (countersOf table row.data).rating value small fits.2
      · cases table <;> rfl
      · have same : Counters.added (additionAmounts false value)
            = fun counters => { counters with rating := counters.rating + value } := by
          funext counters
          simp only [Counters.added, additionAmounts, Int.add_zero]
        rw [same]
        cases table <;> rfl

section Runs

variable {Db : Type} {host : Host Db} (engine : Engine host.sqlite)

/-- What is stored in the row of a key; nothing where there is no such row. -/
def storedSums (table : Table) (key : Bytes) (tables : Database) : Option Amounts :=
  (((tables table).get key).map (countersOf table)).map Counters.sums

/-- The row of the key is one of the rows of the expression. -/
def Engine.selects (table : Table) (key expr : Bytes) (db : Db) : Bool :=
  ((engine.contents db table).find key).any fun row => engine.holds db table expr row.id

/-- An addition to the rows of an expression adds to the row of a key, if it is among them. -/
theorem storedSums_addition (table : Table) (key expr : Bytes) (plays : Bool) (value : Int)
    (db next : Db) (small : FitsInt value)
    (fits : ∀ sums, storedSums table key (engine.contents db) = some sums → sums.Fits)
    (updated : engine.Updated table expr
      ((addition table plays value).assignment.apply (rowLayout table)) db next) :
    storedSums table key (engine.contents next)
      = (storedSums table key (engine.contents db)).map fun sums =>
          sums.plus (if engine.selects table key expr db then additionAmounts plays value else .none) := by
  cases found : (engine.contents db table).find key with
  | none =>
      have absent := updated.becomes.find_none found
      simp only [storedSums, Keyed.Table.get, found, absent, Option.map_none]
  | some row =>
      rcases updated.becomes.find found with ⟨other, inNext, becomes⟩
      have stored : storedSums table key (engine.contents db)
          = some (countersOf table row.data).sums := by
        simp only [storedSums, Keyed.Table.get, found, Option.map_some]
      have after : storedSums table key (engine.contents next)
          = some (countersOf table other.data).sums := by
        simp only [storedSums, Keyed.Table.get, inNext, Option.map_some]
      have selects : engine.selects table key expr db = engine.holds db table expr row.id := by
        simp only [Engine.selects, found, Option.any_some]
      rw [stored, after, selects, Option.map_some]
      congr 1
      cases chosen : engine.holds db table expr row.id with
      | false =>
          rw [becomes.kept chosen, if_neg (by simp), Amounts.plus_none]
      | true =>
          have applied := apply_addition table plays value row small (fits _ stored)
          rw [becomes.changed chosen _ applied, countersOf_withCounters, if_pos rfl]
          rfl

/-- One play of `db_process` counts in the row of its key, unless the id that it reads is no row's. -/
theorem storedSums_play (table : Table) (key : Bytes) (call : ProcessCall) (tables next : Database)
    (ran : (dbProcess call).run intExec tables = (some (), next)) :
    storedSums table key next
      = if call.keyOf table = some key ∧ (tables table).access columnInt key ≠ .missed then
          some (((storedSums table key tables).getD .none).plus ⟨incrementBy call.increment, 0⟩)
        else storedSums table key tables := by
  have after := (run_dbProcess_int_iff call tables next).mp ran table
  have keyed := call.upsertOf_key table
  rw [← keyed]
  cases isOp : call.upsertOf table with
  | none =>
      rw [isOp] at after
      rw [storedSums, ← Option.some.inj after]
      rfl
  | some op =>
      rw [isOp] at after
      rw [Keyed.Table.upsertAnyRead, Keyed.Table.upsertRead] at after
      simp only [Option.map_some, Option.some.injEq]
      by_cases mine : op.key = key
      · subst mine
        cases access : (tables table).access columnInt op.key with
        | failed =>
            rw [access] at after
            cases after
        | missed =>
            rw [access] at after
            rw [if_neg (by simp), storedSums, ← Option.some.inj after]
            rfl
        | reached =>
            rw [access] at after
            have counted := apply_counters call table op isOp ((tables table).get op.key)
            rw [if_pos ⟨rfl, by simp⟩, storedSums, ← Option.some.inj after,
              Keyed.Table.get_upsert_self, counted, storedSums]
            cases ((tables table).get op.key).map (countersOf table) <;>
              simp [Counters.plus, Counters.sums, Amounts.plus, Amounts.none, noCounters,
                freshCounters, incrementBy]
      · rw [if_neg fun both => mine both.1, storedSums, storedSums]
        cases access : (tables table).access columnInt op.key with
        | failed =>
            rw [access] at after
            cases after
        | missed =>
            rw [access] at after
            rw [← Option.some.inj after]
        | reached =>
            rw [access] at after
            rw [← Option.some.inj after, Keyed.Table.get_upsert, if_neg (Ne.symm mine)]

/-- What writes to the rows of a table: an accepted `count` or `rate` command, or a play. -/
inductive Writing where
  | addition (plays : Bool) (expr number : Bytes)
  | play (call : ProcessCall)

def additionHandler (host : Host Db) (table : Table) : Bool → Handler Db
  | true => countHandler host table
  | false => rateHandler host table

/-- The step succeeds. -/
inductive Writes (table : Table) : Writing → State Db → State Db → Prop where
  | addition {client : Nat} {plays : Bool} {command expr number : Bytes} {st next : State Db}
      (isExpr : engine.RowExpression expr)
      (ran : additionHandler host table plays client [command, expr, number] st = .ok (.ok, next)) :
      Writes table (.addition plays expr number) st next
  | play {call : ProcessCall} {st next : State Db}
      (ran : (dbProcess call).run intExec (engine.contents st.db)
        = (some (), engine.contents next.db)) :
      Writes table (.play call) st next

def numberOf (number : Bytes) : Int := (numberArg number).toOption.getD 0

/-- What the step adds to the row of a key. -/
def Writing.amounts (table : Table) (key : Bytes) (db : Db) : Writing → Amounts
  | .addition plays expr number =>
      if engine.selects table key expr db then additionAmounts plays (numberOf number) else .none
  | .play call =>
      if call.keyOf table = some key then ⟨incrementBy call.increment, 0⟩ else .none

/-- The step does not miss the row of the key: it is no play that counts there and reads an id that
is no row's. -/
def Writing.meets (table : Table) (key : Bytes) (db : Db) : Writing → Bool
  | .addition _ _ _ => true
  | .play call =>
      !(call.increment && decide (call.keyOf table = some key) &&
        decide ((engine.contents db table).access columnInt key = .missed))

/-- A state of a run, the sums of what the steps have added, and whether the last step has met the
row. -/
structure Visit (Db : Type) where
  sums : Amounts
  state : State Db
  met : Bool

/-- A run from a state without the row, latest state first. -/
inductive Run (table : Table) (key : Bytes) : List (Visit Db) → Prop where
  | start {st : State Db} (absent : storedSums table key (engine.contents st.db) = none) :
      Run table key [⟨.none, st, true⟩]
  | step {visit : Visit Db} {next : State Db} {past : List (Visit Db)} {writing : Writing}
      (run : Run table key (visit :: past)) (writes : Writes engine table writing visit.state next) :
      Run table key (⟨visit.sums.plus (writing.amounts engine table key visit.state.db), next,
        writing.meets engine table key visit.state.db⟩ :: visit :: past)

/-- `listinfo` reports the sums of the row, if it is there. -/
def Reports (table : Table) (key : Bytes) (visit : Visit Db) : Prop :=
  ∀ row, (engine.contents visit.state.db table).find key = some row →
    rowReport table row = visit.sums

/-- The sums fit an `int`, and the row was met. -/
def Visit.Exact (visit : Visit Db) : Prop := visit.sums.Fits ∧ visit.met = true

theorem additionHandler_ok (client : Nat) (table : Table) (plays : Bool)
    (command expr number : Bytes) (st next : State Db)
    (ran : additionHandler host table plays client [command, expr, number] st = .ok (.ok, next)) :
    ∃ value changes, numberArg number = .ok value ∧
      (addition table plays value).run host.sqlite st.allowed expr st.db
        = .ok (.ok changes, next.db) := by
  cases plays with
  | true =>
      rw [additionHandler, countHandler_eq] at ran
      rcases handleNumber_ok _ client command expr number st next ran with
        ⟨value, changes, checked, updated⟩
      exact ⟨value, changes, checked, congrArg Except.ok updated⟩
  | false =>
      rw [additionHandler, rateHandler_eq] at ran
      rcases handleNumber_ok _ client command expr number st next ran with
        ⟨value, changes, checked, updated⟩
      exact ⟨value, changes, checked, congrArg Except.ok updated⟩

/-- The step lemma: while the stored sums fit an `int`, a step that meets the row adds its amounts,
and one that does not adds nothing to the row that is there. -/
theorem storedSums_step (table : Table) (key : Bytes) (writing : Writing)
    (st next : State Db) (writes : Writes engine table writing st next)
    (fits : ((storedSums table key (engine.contents st.db)).getD .none).Fits) :
    if writing.meets engine table key st.db then
      (storedSums table key (engine.contents next.db)).getD .none
        = ((storedSums table key (engine.contents st.db)).getD .none).plus
            (writing.amounts engine table key st.db)
    else
      storedSums table key (engine.contents next.db) = storedSums table key (engine.contents st.db) ∧
        (storedSums table key (engine.contents st.db)).isSome ∧
        writing.amounts engine table key st.db = ⟨1, 0⟩ := by
  cases writes with
  | @addition client plays command expr number _ _ isExpr ran =>
      rcases additionHandler_ok client table plays command expr number st next ran with
        ⟨value, changes, checked, updated⟩
      have plain : (addition table plays value).Plain := by cases plays <;> trivial
      have accepted : (addition table plays value).Accepted := by cases plays <;> trivial
      have same : (addition table plays value).table = table := by cases plays <;> rfl
      have done := (engine.change_done st.allowed _ accepted plain expr isExpr st.db next.db changes
        updated).1
      rw [same] at done
      have amount : numberOf number = value := by
        rw [numberOf, checked]
        rfl
      have after := storedSums_addition engine table key expr plays value st.db next.db
        (numberArg_fits number value checked)
        (fun sums stored => by simpa [stored] using fits) done
      rw [Writing.meets, if_pos rfl, after, Writing.amounts, amount]
      cases stored : storedSums table key (engine.contents st.db) with
      | some sums => rfl
      | none =>
          have absent : (engine.contents st.db table).find key = none := by
            simpa [storedSums, Keyed.Table.get] using stored
          have unselected : engine.selects table key expr st.db = false := by
            simp [Engine.selects, absent]
          rw [unselected]
          rfl
  | @play call _ _ ran =>
      have after := storedSums_play table key call _ _ ran
      by_cases mine : call.keyOf table = some key
      · by_cases missed : (engine.contents st.db table).access columnInt key = .missed
        · rw [if_neg fun both => both.2 missed] at after
          have there : (storedSums table key (engine.contents st.db)).isSome := by
            rw [Keyed.Table.access] at missed
            cases found : (engine.contents st.db table).find key with
            | none =>
                rw [found] at missed
                cases missed
            | some row => simp [storedSums, Keyed.Table.get, found]
          cases counts : call.increment with
          | true =>
              rw [if_neg (by simp [Writing.meets, counts, mine, missed])]
              refine ⟨after, there, ?_⟩
              rw [Writing.amounts, if_pos mine, counts]
              rfl
          | false =>
              rw [if_pos (by simp [Writing.meets, counts]), after, Writing.amounts, if_pos mine,
                counts]
              exact (Amounts.plus_none _).symm
        · rw [if_pos ⟨mine, missed⟩] at after
          rw [if_pos (by simp [Writing.meets, missed]), after, Writing.amounts, if_pos mine]
          rfl
      · rw [if_neg fun both => mine both.1] at after
        rw [if_pos (by simp [Writing.meets, mine]), after, Writing.amounts, if_neg mine,
          Amounts.plus_none]

/-- What is reported of stored sums is exact when they fit. -/
theorem reports_iff (table : Table) (key : Bytes) (visit : Visit Db)
    (stored : (storedSums table key (engine.contents visit.state.db)).getD .none = visit.sums) :
    Reports engine table key visit ↔ visit.sums.Fits := by
  rcases visit with ⟨sums, st, met⟩
  dsimp only at stored
  rw [Reports]
  cases found : (engine.contents st.db table).find key with
  | none =>
      have nothing : sums = .none := by simpa [storedSums, Keyed.Table.get, found] using stored.symm
      rw [nothing]
      apply iff_of_true _ Amounts.none_fits
      intro row wrong
      cases wrong
  | some row =>
      have same : (countersOf table row.data).sums = sums := by
        simpa [storedSums, Keyed.Table.get, found] using stored
      simp only [Option.some.injEq, forall_eq', rowReport_eq, ← same, Counters.sums, Amounts.mk.injEq,
        wrapInt_eq_iff]
      rfl

/-- The sums of a run are the stored ones, while all before has been exact. -/
theorem Run.stored {table : Table} {key : Bytes} {visits : List (Visit Db)}
    (run : Run engine table key visits) :
    ∀ visit past, visits = visit :: past → visit.met = true → (∀ earlier ∈ past, earlier.Exact) →
      (storedSums table key (engine.contents visit.state.db)).getD .none = visit.sums := by
  induction run with
  | start absent =>
      rintro visit past same - -
      cases same
      rw [absent]
      rfl
  | @step before next past writing run writes ih =>
      intro visit others same met exact
      cases same
      have here := exact before List.mem_cons_self
      have stored := ih before past rfl here.2
        fun earlier member => exact earlier (List.mem_cons_of_mem _ member)
      have after := storedSums_step engine table key writing before.state next writes
        (stored.symm ▸ here.1)
      rw [if_pos met, stored] at after
      exact after

theorem Run.last_iff {table : Table} {key : Bytes} {visit : Visit Db} {past : List (Visit Db)}
    (run : Run engine table key (visit :: past)) (exact : ∀ earlier ∈ past, earlier.Exact) :
    Reports engine table key visit ↔ visit.Exact := by
  cases met : visit.met with
  | true =>
      rw [reports_iff engine table key visit (Run.stored engine run visit past rfl met exact),
        Visit.Exact, met]
      exact (and_iff_left rfl).symm
  | false =>
      refine iff_of_false (fun reports => ?_) fun whole => ?_
      · -- the row has the sums from before the play that has missed it
        cases run with
        | start absent => cases met
        | @step before next past writing run writes =>
            have here := exact before List.mem_cons_self
            have stored := Run.stored engine run before past rfl here.2
              fun earlier member => exact earlier (List.mem_cons_of_mem _ member)
            have after := storedSums_step engine table key writing before.state next writes
              (stored.symm ▸ here.1)
            dsimp only at met
            rw [if_neg (by rw [met]; decide)] at after
            rcases after with ⟨kept, there, amounts⟩
            rcases Option.isSome_iff_exists.mp there with ⟨sums, isSums⟩
            rw [isSums] at kept stored
            have last := (reports_iff engine table key ⟨before.sums, next, true⟩
              (by rw [kept]; exact stored)).mpr here.1
            rcases Option.map_eq_some_iff.mp kept with ⟨counters, isCounters, -⟩
            rcases Option.map_eq_some_iff.mp isCounters with ⟨data, isData, -⟩
            rcases Option.map_eq_some_iff.mp isData with ⟨row, found, -⟩
            have twice := (last row found).symm.trans (reports row found)
            rw [amounts] at twice
            have plays := congrArg Amounts.plays twice
            simp only [Amounts.plus] at plays
            omega
      · rw [Visit.Exact, met] at whole
        cases whole.2

theorem Run.exact_iff {table : Table} {key : Bytes} {visits : List (Visit Db)}
    (run : Run engine table key visits) :
    (∀ visit ∈ visits, Reports engine table key visit) ↔ ∀ visit ∈ visits, visit.Exact := by
  induction run with
  | start absent =>
      have only := Run.last_iff engine (.start absent) (fun _ member => nomatch member)
      simpa using only
  | step run writes ih =>
      refine List.forall_mem_cons.trans (Iff.trans ?_ List.forall_mem_cons.symm)
      rw [ih]
      exact and_congr_left fun exact => Run.last_iff engine (.step run writes) exact

/-- The lines that `listinfo` prints of a row of the table. -/
def rowLines (host : Host Db) (table : Table) (row : Keyed.Row Bytes (Data table)) :
    Except Fault (List Bytes) :=
  infoLines host table ((infoNames table).map fun name => columnOf ((rowLayout table).get row name))

theorem infoNames_known (table : Table) :
    infoNames table ≠ [] ∧ infoNames table ⊆ table.columnNames := by
  cases table with
  | song =>
      simp only [infoNames, List.cons_subset]
      exact ⟨List.cons_ne_nil _ _, List.mem_of_getElem? (i := 0) rfl,
        List.mem_of_getElem? (i := 1) rfl, List.mem_of_getElem? (i := 2) rfl,
        List.mem_of_getElem? (i := 3) rfl, List.mem_of_getElem? (i := 4) rfl,
        List.mem_of_getElem? (i := 23) rfl, List.mem_of_getElem? (i := 22) rfl,
        List.mem_of_getElem? (i := 6) rfl, List.nil_subset _⟩
  | album =>
      simp only [infoNames, List.cons_subset]
      exact ⟨List.cons_ne_nil _ _, List.mem_of_getElem? (i := 0) rfl,
        List.mem_of_getElem? (i := 1) rfl, List.mem_of_getElem? (i := 4) rfl,
        List.mem_of_getElem? (i := 3) rfl, List.mem_of_getElem? (i := 5) rfl,
        List.mem_of_getElem? (i := 6) rfl, List.mem_of_getElem? (i := 7) rfl, List.nil_subset _⟩
  | artist | genre =>
      simp only [infoNames, List.cons_subset]
      exact ⟨List.cons_ne_nil _ _, List.mem_of_getElem? (i := 0) rfl,
        List.mem_of_getElem? (i := 1) rfl, List.mem_of_getElem? (i := 3) rfl,
        List.mem_of_getElem? (i := 4) rfl, List.mem_of_getElem? (i := 5) rfl,
        List.mem_of_getElem? (i := 6) rfl, List.nil_subset _⟩

/-- `listinfo` prints the rows of its expression and nothing else. -/
theorem listinfo_prints (table : Table) (client : Nat) (command name expr : Bytes)
    (st next : State Db) (current : st.currentCommand = some command)
    (isExpr : engine.RowExpression expr)
    (ran : listinfoHandler host table client [name, expr] st = .ok (.ok, next)) :
    ∃ rows texts,
      List.Perm rows ((engine.contents st.db table).select (engine.holds st.db table expr)) ∧
      rows.mapM (rowLines host table) = .ok texts ∧
      next.output client = st.output client ++ sent (texts.flatten ++ [lit "OK"]) := by
  rw [listinfoHandler_replies host table client [name, expr] st command current, Listing.reply] at ran
  have text : selectText (nameList (infoNames table)) table expr
      = statement (selectHead (nameList (infoNames table)) table) expr := rfl
  dsimp only at ran
  rw [text] at ran
  cases prepared : host.sqlite.prepare st.allowed
      (statement (selectHead (nameList (infoNames table)) table) expr) st.db with
  | error errmsg =>
      rw [prepared] at ran
      cases ran
  | ok execution =>
      rw [prepared] at ran
      dsimp only at ran
      cases failed : execution.failure with
      | some errmsg =>
          rw [failed] at ran
          cases ran
      | none =>
          have selected := (engine.select_done st.allowed table (infoNames table) expr st.db execution
            isExpr (infoNames_known table).1 (infoNames_known table).2 prepared failed).1
          rcases Keyed.exists_perm_of_map _ ((List.reverse_perm _).trans selected) with
            ⟨rows, perm, same⟩
          rw [failed] at ran
          dsimp only at ran
          rw [same, List.mapM_map] at ran
          cases texts : rows.mapM (rowLines host table) with
          | error fault =>
              have printed : rows.mapM (infoLines host table ∘ fun row =>
                  (infoNames table).map fun name => columnOf ((rowLayout table).get row name))
                  = .error fault := texts
              rw [printed] at ran
              cases ran
          | ok texts' =>
              have printed : rows.mapM (infoLines host table ∘ fun row =>
                  (infoNames table).map fun name => columnOf ((rowLayout table).get row name))
                  = .ok texts' := texts
              rw [printed] at ran
              cases ran
              exact ⟨rows, texts', perm, texts, by simp [Reply.after, Reply.finalLine]⟩

/-- The reported counters are the sums of what has been added since the row was created, exactly as
long as the sums have fitted an `int` and no play has missed the row; and `listinfo` prints what is
reported. -/
theorem counters_exact_iff {table : Table} {key : Bytes} {visits : List (Visit Db)}
    (run : Run engine table key visits) :
    ((∀ visit ∈ visits, Reports engine table key visit) ↔ ∀ visit ∈ visits, visit.Exact) ∧
      ∀ visit ∈ visits, ∀ client command name expr next,
        visit.state.currentCommand = some command → engine.RowExpression expr →
        listinfoHandler host table client [name, expr] visit.state = .ok (.ok, next) →
          ∃ rows texts,
            List.Perm rows ((engine.contents visit.state.db table).select
              (engine.holds visit.state.db table expr)) ∧
            rows.mapM (rowLines host table) = .ok texts ∧
            next.output client
              = visit.state.output client ++ sent (texts.flatten ++ [lit "OK"]) ∧
            ∀ row lines, rowLines host table row = .ok lines →
              numberLine "Play Count" (rowReport table row).plays ∈ lines ∧
                numberLine "Rating" (rowReport table row).rating ∈ lines := by
  refine ⟨run.exact_iff engine, fun visit _ client command name expr next current isExpr ran => ?_⟩
  rcases listinfo_prints engine table client command name expr visit.state next current isExpr ran
    with ⟨rows, texts, perm, printed, output⟩
  exact ⟨rows, texts, perm, printed, output,
    fun row lines here => infoLines_reported host table _ lines here⟩

end Runs

/-! ### A run that is not exact -/

theorem small_addition (table : Table) (plays : Bool) (command number : Bytes) (value id : Int)
    (db : Small) (checked : numberArg number = .ok value) :
    ∃ next, additionHandler smallHost table plays 0 [command, idExpr id, number] (smallState db)
        = .ok (.ok, next) ∧
      next.db = db.update table (addition table plays value).assignment (smallHolds (idExpr id)) := by
  have step : additionHandler smallHost table plays 0 [command, idExpr id, number] (smallState db)
      = answerChanges 0
          (.ok (db.update table (addition table plays value).assignment
              (smallHolds (idExpr id))).changed,
            db.update table (addition table plays value).assignment (smallHolds (idExpr id)))
          (smallState db) := by
    cases plays with
    | true =>
        have ran : dbCountExpr smallSqlite (fun _ => true) table (idExpr id) value db = _ :=
          Except.ok.inj (small_change (.count table value) trivial trivial id db)
        rw [additionHandler, countHandler_eq, handleNumber, checked]
        exact congrArg (fun result => answerChanges 0 result (smallState db)) ran
    | false =>
        have ran : dbRateExpr smallSqlite (fun _ => true) table (idExpr id) value db = _ :=
          Except.ok.inj (small_change (.rate table value) trivial trivial id db)
        rw [additionHandler, rateHandler_eq, handleNumber, checked]
        exact congrArg (fun result => answerChanges 0 result (smallState db)) ran
  exact ⟨_, step.trans rfl, rfl⟩

def countEngine : Engine smallHost.sqlite := smallEngine

/-- The song is played and then counted. -/
theorem counted_run (number : Bytes) (value : Int) (checked : numberArg number = .ok value) :
    ∃ st, st.db = playedOnce.update .song (addition .song true value).assignment
        (smallHolds (idExpr 1)) ∧
      Run countEngine .song (lit "a.ogg")
        [⟨⟨1 + value, 0⟩, st, true⟩, ⟨⟨1, 0⟩, smallState playedOnce, true⟩,
          ⟨.none, smallState ⟨.empty, 0⟩, true⟩] := by
  rcases small_addition .song true (lit "count") number value 1 playedOnce checked with
    ⟨st, ran, updated⟩
  have played : (dbProcess firstPlay).run intExec Database.empty = (some (), playedOnce.tables) :=
    run_dbProcess_meets firstPlay Database.empty ((Database.empty_hasRoom 0 (by decide)).meets firstPlay)
  have keyed : firstPlay.keyOf .song = some (lit "a.ogg") := rfl
  have first : Writing.amounts countEngine .song (lit "a.ogg") ⟨.empty, 0⟩ (.play firstPlay)
      = ⟨1, 0⟩ := by
    rw [Writing.amounts, if_pos keyed]
    rfl
  have met : Writing.meets countEngine .song (lit "a.ogg") ⟨.empty, 0⟩ (.play firstPlay) = true := by
    have reached := (Database.empty_hasRoom 0 (by decide)).access .song (lit "a.ogg")
    rw [Writing.meets, show countEngine.contents ⟨.empty, 0⟩ = .empty from rfl, reached]
    rfl
  have selected : countEngine.selects .song (lit "a.ogg") (idExpr 1) playedOnce = true := by
    change ((playedOnce.tables .song).find (lit "a.ogg")).any
      (fun row => smallHolds (idExpr 1) row.id) = true
    rw [playedOnce_row, Option.any_some, smallHolds_idExpr]
    rfl
  have second : Writing.amounts countEngine .song (lit "a.ogg") playedOnce
      (.addition true (idExpr 1) number) = ⟨value, 0⟩ := by
    rw [Writing.amounts, if_pos selected, numberOf, checked]
    rfl
  have start : Run countEngine .song (lit "a.ogg") [⟨.none, smallState ⟨.empty, 0⟩, true⟩] :=
    .start rfl
  have plays : Writes countEngine .song (.play firstPlay) (smallState ⟨.empty, 0⟩)
      (smallState playedOnce) := .play played
  have once := Run.step start plays
  have twice := Run.step once (.addition ⟨1, rfl⟩ ran)
  dsimp only at once twice
  rw [show (smallState playedOnce).db = playedOnce from rfl, second] at twice
  rw [show (smallState ⟨.empty, 0⟩).db = ⟨.empty, 0⟩ from rfl, first, met] at twice
  exact ⟨st, updated, by simpa [Amounts.plus, Amounts.none, Writing.meets] using twice⟩

theorem counters_exact_counted :
    ∃ st, Run countEngine .song (lit "a.ogg")
        [⟨⟨6, 0⟩, st, true⟩, ⟨⟨1, 0⟩, smallState playedOnce, true⟩,
          ⟨.none, smallState ⟨.empty, 0⟩, true⟩] ∧
      Reports countEngine .song (lit "a.ogg") ⟨⟨6, 0⟩, st, true⟩ := by
  rcases counted_run (lit "5") 5 (by decide) with ⟨st, -, run⟩
  refine ⟨st, run, ?_⟩
  have exact := (counters_exact_iff countEngine run).1.mpr
  refine exact ?_ _ List.mem_cons_self
  simp [Visit.Exact, Amounts.Fits, FitsInt, intMin, intMax, Amounts.none]

/-- One count of the largest `int`, and the play count that is reported is negative. -/
theorem count_overflows :
    ∃ st past row, Run countEngine .song (lit "a.ogg") (⟨⟨2147483648, 0⟩, st, true⟩ :: past) ∧
      (countEngine.contents st.db .song).find (lit "a.ogg") = some row ∧
      rowReport .song row = ⟨-2147483648, 0⟩ ∧
      ¬ Reports countEngine .song (lit "a.ogg") ⟨⟨2147483648, 0⟩, st, true⟩ := by
  rcases counted_run (lit "2147483647") 2147483647 (by decide) with ⟨st, updated, run⟩
  have report : ((countEngine.contents st.db .song).find (lit "a.ogg")).map (rowReport .song)
      = some ⟨-2147483648, 0⟩ := by
    rw [updated]
    decide +kernel
  rcases Option.map_eq_some_iff.mp report with ⟨row, found, negative⟩
  refine ⟨st, _, row, run, found, negative, fun reports => ?_⟩
  have wrong : (⟨2147483648, 0⟩ : Amounts) = ⟨-2147483648, 0⟩ :=
    (reports row found).symm.trans negative
  exact absurd wrong (by decide)

end Mpdcron.Stats
