import Mathlib.Algebra.Order.Ring.Int
import Mpdcron.Stats.Counting

/-! The karma of a song over its plays, and what `karma` makes of it. -/

namespace Mpdcron.Stats

open CString Player Script SqlText SqlRow

/-- A call of `db_process` for a play of the song. -/
structure PlayOf (uri : Bytes) (call : ProcessCall) : Prop where
  song : call.song.uri = uri
  accepted : (songCheckTags call.song.toSong).isSome
  low : 0 ≤ call.percentPlayed
  high : call.percentPlayed ≤ 100

def karmaOf (db : Database) (uri : Bytes) : Option Int :=
  ((db .song).get uri).map fun data => (SongData.karma data).val

/-- One play more: `(karma + percent_played + 1) / 2`, from `DB_KARMA_DEFAULT` where the row is
inserted. -/
def karmaPlay (karma : Option Int) (percent : Int) : Option Int :=
  some ((karma.getD dbKarmaDefault.val + percent + 1).tdiv 2)

theorem karma_changeSong (song : TaggedSong) (artist : Bytes) (title : Option Bytes)
    (increment : Bool) (percent now : Int) (data : SongData) (low : 0 ≤ percent)
    (high : percent ≤ 100) :
    (changeSong song artist title increment percent now data).karma.val
      = (data.karma.val + percent + 1).tdiv 2 := by
  have range : played percent = some ⟨percent, low, high⟩ := dif_pos ⟨low, high⟩
  rw [changeSong, range]
  rfl

theorem karma_freshSong (song : TaggedSong) (artist : Bytes) (title : Option Bytes)
    (increment : Bool) (percent now : Int) (low : 0 ≤ percent) (high : percent ≤ 100) :
    (freshSong song artist title increment percent now).karma.val
      = (dbKarmaDefault.val + percent + 1).tdiv 2 := by
  have range : played percent = some ⟨percent, low, high⟩ := dif_pos ⟨low, high⟩
  rw [freshSong, range]
  rfl

/-- The insert and the update agree on the karma of a play. -/
theorem karmaOf_play {uri : Bytes} (call : ProcessCall) (db : Database) (play : PlayOf uri call) :
    karmaOf (fun table => (db table).upsertAny (call.upsertOf table)) uri
      = karmaPlay (karmaOf db uri) call.percentPlayed := by
  rcases play with ⟨rfl, accepted, low, high⟩
  rcases Option.isSome_iff_exists.mp accepted with ⟨⟨artist, title⟩, tags⟩
  simp only [karmaOf, karmaPlay, ProcessCall.upsertOf, tags, Option.bind_some, ProcessCall.upsert,
    Keyed.Table.upsertAny, Keyed.Table.get_upsert, if_true, Option.map_some]
  cases (db .song).get call.song.uri with
  | none => exact congrArg some (karma_freshSong _ artist title _ _ _ low high)
  | some data => exact congrArg some (karma_changeSong _ artist title _ _ _ data low high)

theorem run_plays {uri : Bytes} (calls : List ProcessCall) (plays : ∀ call ∈ calls, PlayOf uri call) :
    ∀ db : Database, Meeting calls db →
      ∃ after, (dbProcesses calls).run intExec db = (some (), after) ∧
        karmaOf after uri = (calls.map ProcessCall.percentPlayed).foldl karmaPlay (karmaOf db uri) := by
  induction calls with
  | nil => exact fun db _ => ⟨db, rfl, rfl⟩
  | cons call calls ih =>
      intro db meeting
      rcases ih (fun other member => plays other (List.mem_cons_of_mem _ member))
        (fun table => (db table).upsertAny (call.upsertOf table)) meeting.2 with ⟨after, ran, karma⟩
      refine ⟨after, ?_, ?_⟩
      · rw [dbProcesses, bind_eq, run_bind, run_dbProcess_meets call db meeting.1]
        exact ran
      · rw [karma, karmaOf_play call db (plays call List.mem_cons_self), List.map_cons,
          List.foldl_cons]

/-! ### The range -/

/-- Rounding up keeps the karma above zero. -/
theorem karmaPlay_range (karma : Option Int) (percent : Int)
    (range : ∀ value ∈ karma, 0 < value ∧ value ≤ 100) (low : 0 ≤ percent) (high : percent ≤ 100) :
    ∀ value ∈ karmaPlay karma percent, 0 < value ∧ value ≤ 100 := by
  intro value member
  have start : 0 < karma.getD dbKarmaDefault.val ∧ karma.getD dbKarmaDefault.val ≤ 100 := by
    cases karma with
    | none => exact ⟨by decide, by decide⟩
    | some given => exact range given rfl
  rw [karmaPlay, Option.mem_some_iff, Int.tdiv_eq_ediv_of_nonneg (by omega)] at member
  omega

theorem plays_range (percents : List Int) (within : ∀ percent ∈ percents, 0 ≤ percent ∧ percent ≤ 100) :
    ∀ karma : Option Int, (∀ value ∈ karma, 0 < value ∧ value ≤ 100) →
      ∀ value ∈ percents.foldl karmaPlay karma, 0 < value ∧ value ≤ 100 := by
  induction percents with
  | nil => exact fun karma range => range
  | cons percent percents ih =>
      intro karma range
      have bounds := within percent List.mem_cons_self
      exact ih (fun other member => within other (List.mem_cons_of_mem _ member))
        (karmaPlay karma percent) (karmaPlay_range karma percent range bounds.1 bounds.2)

theorem plays_some (percents : List Int) (nonempty : percents ≠ []) (karma : Option Int) :
    ∃ value, percents.foldl karmaPlay karma = some value := by
  rcases List.eq_nil_or_concat percents with none | ⟨before, last, split⟩
  · exact absurd none nonempty
  · rw [split, List.concat_eq_append, List.foldl_append]
    exact ⟨_, rfl⟩

/-- What is missing to 100 is halved by every full play, and rounded down. -/
theorem full_plays (count : Nat) : ∀ karma : Int, 0 ≤ karma → karma ≤ 100 →
    ∃ value, (List.replicate count (100 : Int)).foldl karmaPlay (some karma) = some value ∧
      value ≤ 100 ∧ (100 - value) * 2 ^ count ≤ 100 - karma := by
  induction count with
  | zero => exact fun karma low high => ⟨karma, rfl, high, by simp⟩
  | succ count ih =>
      intro karma low high
      have step : karmaPlay (some karma) 100 = some ((karma + 100 + 1) / 2) := by
        rw [karmaPlay, Option.getD_some, Int.tdiv_eq_ediv_of_nonneg (by omega)]
      rcases ih ((karma + 100 + 1) / 2) (by omega) (by omega) with ⟨value, played, most, missing⟩
      refine ⟨value, ?_, most, ?_⟩
      · rw [List.replicate_succ, List.foldl_cons, step, played]
      · calc
          (100 - value) * 2 ^ (count + 1) = (100 - value) * 2 ^ count * 2 := by
            rw [Int.pow_succ, Int.mul_assoc]
          _ ≤ (100 - (karma + 100 + 1) / 2) * 2 := by omega
          _ ≤ 100 - karma := by omega

theorem full_plays_reach (count : Nat) (enough : 7 ≤ count) (karma : Int) (low : 0 ≤ karma)
    (high : karma ≤ 100) :
    (List.replicate count (100 : Int)).foldl karmaPlay (some karma) = some 100 := by
  rcases full_plays count karma low high with ⟨value, played, most, missing⟩
  have large : (2 : Int) ^ 7 ≤ 2 ^ count := pow_le_pow_right₀ (by decide) enough
  have reached : 100 - value ≤ 0 := by
    by_contra less
    have bound : (1 : Int) * 2 ^ count ≤ (100 - value) * 2 ^ count :=
      Int.mul_le_mul_of_nonneg_right (by omega) (by omega)
    omega
  rw [played, show value = 100 by omega]

/-! ### The command -/

theorem clampLong_of_range (karma : Int) (low : 0 ≤ karma) (high : karma ≤ 100) :
    clampLong karma = karma := by
  rw [clampLong]
  omega

/-- `karma_percent` lets the column be set. -/
theorem karma_assigned (karma : Int) (low : 0 ≤ karma) (high : karma ≤ 100)
    (row : Keyed.Row Bytes (Data .song)) :
    (Change.karma karma).assignment.apply (rowLayout .song) row
      = some { row with data := { (row.data : SongData) with karma := ⟨karma, low, high⟩ } } := by
  have value : integer64 karma = some (.integer karma) := by
    rw [integer64, clampLong_of_range karma low high, if_pos rfl]
  have set : (rowLayout .song).set row (lit "karma") (.integer karma)
      = (setKarma .song row.data (.integer karma)).map fun data => { row with data := data } := rfl
  simp only [Change.assignment, Assignment.apply, Expr.eval, Operand.eval, value, Option.bind_some,
    set, setKarma, dif_pos (And.intro low high), Option.map_some]

/-- Setting the karma of rows to what that of the song is already. -/
theorem karmaOf_updated {before after : Database} {selected : Int → Bool} {uri : Bytes}
    {karma : Int} (low : 0 ≤ karma) (high : karma ≤ 100) (known : karmaOf before uri = some karma)
    (becomes : (before .song).Becomes selected
      ((Change.karma karma).assignment.apply (rowLayout .song)) (after .song)) :
    karmaOf after uri = some karma := by
  rcases Option.map_eq_some_iff.mp known with ⟨data, holds, value⟩
  rcases Option.map_eq_some_iff.mp holds with ⟨row, found, rfl⟩
  rcases becomes.find found with ⟨next, foundNext, changed⟩
  have kept : (SongData.karma next.data).val = karma := by
    cases chosen : selected row.id with
    | true => rw [changed.changed chosen _ (karma_assigned karma low high row)]
    | false => rw [changed.kept chosen, value]
  rw [karmaOf, Keyed.Table.get, foundNext, Option.map_some, Option.map_some, kept]

theorem karmaArg_accepted (karma : Int) (low : 0 < karma) (high : karma < 100) :
    karmaArg (decimal karma) = .ok karma := by
  have long := clampLong_of_range karma (by omega) (by omega)
  have nonempty : ([] : Bytes) ≠ decimal karma := by
    cases karma with
    | ofNat value => exact (decimalNat_ne_nil value).symm
    | negSucc value => exact (List.cons_ne_nil _ _).symm
  rw [karmaArg, strtol_whole_decimal]
  dsimp only
  rw [if_neg (by omega), if_neg nonempty, if_neg (by omega)]

theorem karmaArg_full : karmaArg (decimal 100)
    = .error (lit "Karma '" ++ decimal 100 ++ lit "' should be a percentage between 0 and 100") := by
  decide +kernel

section Command

variable {Db : Type} (host : Host Db) (engine : Engine host.sqlite)

/-- The command is accepted and leaves the song with the karma it had. -/
def WritesBack (uri : Bytes) (karma : Int) (client : Nat) (name expr : Bytes) (st : State Db) : Prop :=
  ∃ next, handleKarma host client [name, expr, decimal karma] st = .ok (.ok, next) ∧
    karmaOf (engine.contents next.db) uri = some karma

theorem writesBack_below (uri : Bytes) (karma : Int) (low : 0 < karma) (high : karma < 100)
    (client : Nat) (name expr : Bytes) (st : State Db) (execution : Execution Db) (after : Db)
    (isExpr : engine.RowExpression expr) (known : karmaOf (engine.contents st.db) uri = some karma)
    (prepared : host.sqlite.prepare st.allowed
      (statement (updateHead .song (lit "karma = (" ++ decimal karma ++ lit ")")) expr) st.db
        = .ok execution)
    (stepped : dbStep execution = (.done, after)) :
    WritesBack host engine uri karma client name expr st := by
  have accepted : (Change.karma karma).Accepted := ⟨by omega, by omega⟩
  have ran : dbKarmaSongExpr host.sqlite st.allowed expr karma st.db
      = .ok (.ok (host.sqlite.changes after), after) := by
    have whole := (Change.karma karma).run_statement host.sqlite st.allowed accepted expr st.db
    have text : statement (updateHead (Change.karma karma).table (Change.karma karma).stmt) expr
        = statement (updateHead .song (lit "karma = (" ++ decimal karma ++ lit ")")) expr := rfl
    rw [text, runStatement, prepared] at whole
    simp only [stepped] at whole
    exact whole
  have updated := engine.change_done st.allowed (Change.karma karma) accepted trivial expr isExpr
    st.db after _ ran
  have left : karmaOf (engine.contents after) uri = some karma :=
    karmaOf_updated accepted.1 accepted.2 known updated.1.becomes
  refine ⟨commandOk client (commandPuts client
    (lit "changes: " ++ decimal (host.sqlite.changes after)) { st with db := after }), ?_, left⟩
  rw [handleKarma, karmaArg_accepted karma low high]
  dsimp only
  rw [ran]
  rfl

theorem not_writesBack_full (uri : Bytes) (client : Nat) (name expr : Bytes) (st : State Db) :
    ¬WritesBack host engine uri 100 client name expr st := by
  rintro ⟨next, ran, _⟩
  rw [handleKarma, karmaArg_full] at ran
  exact commandError_not_ok _ _ _ _ _ ran

theorem writesBack_iff (uri : Bytes) (karma : Int) (low : 0 < karma) (high : karma ≤ 100)
    (client : Nat) (name expr : Bytes) (st : State Db) (execution : Execution Db) (after : Db)
    (isExpr : engine.RowExpression expr) (known : karmaOf (engine.contents st.db) uri = some karma)
    (prepared : host.sqlite.prepare st.allowed
      (statement (updateHead .song (lit "karma = (" ++ decimal karma ++ lit ")")) expr) st.db
        = .ok execution)
    (stepped : dbStep execution = (.done, after)) :
    WritesBack host engine uri karma client name expr st ↔ karma ≠ 100 := by
  constructor
  · intro writes full
    rw [full] at writes
    exact not_writesBack_full host engine uri client name expr st writes
  · intro below
    exact writesBack_below host engine uri karma low (by omega) client name expr st execution after
      isExpr known prepared stepped

end Command

theorem plays_percents {uri : Bytes} {calls : List ProcessCall}
    (plays : ∀ call ∈ calls, PlayOf uri call) :
    ∀ percent ∈ calls.map ProcessCall.percentPlayed, 0 ≤ percent ∧ percent ≤ 100 := by
  intro percent member
  rcases List.mem_map.mp member with ⟨call, inCalls, rfl⟩
  exact ⟨(plays call inCalls).low, (plays call inCalls).high⟩

/-- Seven or more full plays of a song that is in the database. -/
theorem karmaOf_full {uri : Bytes} (db : Database) (calls : List ProcessCall)
    (meeting : Meeting calls db) (known : (karmaOf db uri).isSome) (enough : 7 ≤ calls.length)
    (plays : ∀ call ∈ calls, PlayOf uri call ∧ call.percentPlayed = 100) :
    karmaOf ((dbProcesses calls).run intExec db).2 uri = some 100 := by
  rcases run_plays calls (fun call member => (plays call member).1) db meeting with ⟨after, ran, karma⟩
  have percents : calls.map ProcessCall.percentPlayed = List.replicate calls.length 100 := by
    rw [List.eq_replicate_iff, List.length_map]
    refine ⟨rfl, fun percent member => ?_⟩
    rcases List.mem_map.mp member with ⟨call, inCalls, rfl⟩
    exact (plays call inCalls).2
  rcases Option.map_eq_some_iff.mp (Option.isSome_iff_exists.mp known).choose_spec with
    ⟨data, holds, value⟩
  have start : karmaOf db uri = some (SongData.karma data).val := by
    rw [karmaOf, holds, Option.map_some]
  have bounds := (SongData.karma data).property
  rw [ran, karma, percents, start, full_plays_reach _ enough _ bounds.1 bounds.2]

/-- The plays of a song, which meet its rows, never take its karma out of the range of the column,
and full plays take it to 100; a karma of 100 is the only one that cannot be written back. -/
theorem karma_writable_iff {Db : Type} (host : Host Db) (engine : Engine host.sqlite) (uri : Bytes)
    (start : Database) (calls : List ProcessCall) (fresh : (start .song).get uri = none)
    (plays : ∀ call ∈ calls, PlayOf uri call) (played : calls ≠ []) (meeting : Meeting calls start) :
    ∃ after karma, (dbProcesses calls).run intExec start = (some (), after) ∧
      karmaOf after uri = some karma ∧
      (calls.map ProcessCall.percentPlayed).foldl karmaPlay none = some karma ∧
      0 ≤ karma ∧ karma ≤ 100 ∧
      (∃ enough, ∀ db more, Meeting more db → (karmaOf db uri).isSome → enough ≤ more.length →
        (∀ call ∈ more, PlayOf uri call ∧ call.percentPlayed = 100) →
          karmaOf ((dbProcesses more).run intExec db).2 uri = some 100) ∧
      ∀ client name expr st execution next, engine.RowExpression expr →
        karmaOf (engine.contents st.db) uri = some karma →
        host.sqlite.prepare st.allowed
          (statement (updateHead .song (lit "karma = (" ++ decimal karma ++ lit ")")) expr) st.db
            = .ok execution →
        dbStep execution = (.done, next) →
          (WritesBack host engine uri karma client name expr st ↔ karma ≠ 100) := by
  rcases run_plays calls plays start meeting with ⟨after, ran, reached⟩
  have before : karmaOf start uri = none := by
    rw [karmaOf, fresh]
    rfl
  rw [before] at reached
  rcases plays_some (calls.map ProcessCall.percentPlayed) (by simpa using played) none with
    ⟨karma, value⟩
  have range := plays_range _ (plays_percents plays) none (fun value none => by cases none) karma value
  refine ⟨after, karma, ran, reached.trans value, value, by omega, range.2, ⟨7, ?_⟩, ?_⟩
  · intro db more meeting known enough full
    exact karmaOf_full db more meeting known enough full
  · intro client name expr st execution next isExpr known prepared stepped
    exact writesBack_iff host engine uri karma range.1 range.2 client name expr st execution next
      isExpr known prepared stepped

/-! ### A song that was played in full -/

def fullPlay : ProcessCall :=
  { song := plainSong (lit "a.ogg") (lit "A"), increment := true, percentPlayed := 100, now := 0 }

theorem fullPlay_playOf : PlayOf (lit "a.ogg") fullPlay := ⟨rfl, rfl, by decide, by decide⟩

theorem karma_writable_once :
    ∃ after karma, (dbProcesses [fullPlay]).run intExec .empty = (some (), after) ∧
      karmaOf after (lit "a.ogg") = some karma ∧ 0 ≤ karma ∧ karma ≤ 100 := by
  rcases karma_writable_iff smallHost smallEngine (lit "a.ogg") .empty [fullPlay] rfl
    (fun call member => List.mem_singleton.mp member ▸ fullPlay_playOf) (List.cons_ne_nil _ _)
    ⟨(Database.empty_hasRoom 0 (by decide)).meets fullPlay, trivial⟩ with
    ⟨after, karma, ran, reached, _, low, high, _⟩
  exact ⟨after, karma, ran, reached, low, high⟩

/-- Seven full plays. -/
def playedFull : Small where
  tables := Database.empty.upsertAll (List.replicate 7 fullPlay)
  changed := 1

/-- Seven full plays bring the karma to 100, and the command refuses to set it to that. -/
theorem full_karma_refused :
    karmaOf ((dbProcesses (List.replicate 7 fullPlay)).run intExec .empty).2 (lit "a.ogg")
        = some 100 ∧
      karmaOf (smallEngine.contents (smallState playedFull).db) (lit "a.ogg") = some 100 ∧
      ¬WritesBack smallHost smallEngine (lit "a.ogg") 100 0 (lit "karma") (idExpr 1)
        (smallState playedFull) := by
  have reached : karmaOf (Database.empty.upsertAll (List.replicate 7 fullPlay)) (lit "a.ogg")
      = some 100 := by
    decide +kernel
  exact ⟨by decide +kernel, reached, not_writesBack_full smallHost smallEngine _ _ _ _ _⟩

end Mpdcron.Stats
