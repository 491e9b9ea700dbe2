import Mpdcron.Player.Event
import Mpdcron.Stats.DbProcess

/-! The row of a song: what a play leaves in it, and whether an insert leaves the same as an
update. -/

namespace Mpdcron.Stats

open CString Player Script

/-! ### A play -/

/-- What `song_ended` of the stats module asks of `db_process`; `elapsed` is the timer in
microseconds. -/
def endedCalls (song : TaggedSong) (elapsed now : Int) : List ProcessCall :=
  (statsSongEnded song.toSong elapsed).map fun call =>
    { song := song, increment := call.increment, percentPlayed := call.percentPlayed, now := now }

/-- The row of the song after `song_ended`. -/
def rowAfter (song : TaggedSong) (elapsed now : Int) (db : Database) : Option SongData :=
  (((dbProcesses (endedCalls song elapsed now)).run intExec db).2 .song).get song.uri

/-- `percent_played` -/
def percentOf (song : TaggedSong) (elapsed : Int) : Int :=
  100 * seconds elapsed / toInt song.duration

/-- `elapsed * 100 / song_duration` of `int`s -/
def intPercent (song : TaggedSong) (elapsed : Int) : Int :=
  (wrapInt (seconds elapsed * 100)).tdiv (toInt song.duration)

/-- Whether the row is that of a song that was played up to a percentage. -/
structure RecordedAsPlayed (percent now : Int) (before after : SongData) : Prop where
  lastPlayed : after.lastPlayed = some now
  karma : after.karma.val = (before.karma.val + percent + 1) / 2

/-- Every play counts, and what is played beyond the end counts as the whole. -/
def CountsAsFullPlay (song : TaggedSong) (elapsed now : Int) (db : Database) (before : SongData) :
    Prop :=
  ∃ after, rowAfter song elapsed now db = some after ∧
    RecordedAsPlayed (min 100 (percentOf song elapsed)) now before after

theorem Karma.towards_val (karma percent : Karma) :
    (karma.towards percent).val = (karma.val + percent.val + 1) / 2 := by
  have karmaBounds := karma.property
  have percentBounds := percent.property
  exact Int.tdiv_eq_ediv_of_nonneg (by omega)

theorem played_percent (percent : Int) (low : 0 ≤ percent) (high : percent ≤ 100) :
    played percent = some ⟨percent, low, high⟩ := dif_pos ⟨low, high⟩

theorem played_beyond (percent : Int) (beyond : 100 < percent) : played percent = none :=
  dif_neg fun range => by omega

section Play

variable (song : TaggedSong) (elapsed now : Int) (db : Database) (before : SongData)

/-- What becomes of the row: it is written over where its id can be read back. -/
theorem rowAfter_eq (accepted : (songCheckTags song.toSong).isSome)
    (known : (db .song).get song.uri = some before) (duration : 0 < toInt song.duration)
    (started : 0 ≤ seconds elapsed) :
    ∃ artist title increment, rowAfter song elapsed now db
      = some (if (db .song).access columnInt song.uri = .reached then
          changeSong song artist title increment (percentOf song elapsed) now before
        else before) := by
  rcases Option.isSome_iff_exists.mp accepted with ⟨⟨artist, title⟩, tags⟩
  have percent : (seconds elapsed * 100).tdiv (toInt song.duration) = percentOf song elapsed := by
    rw [Int.tdiv_eq_ediv_of_nonneg (by omega), percentOf, Int.mul_comm]
  refine ⟨artist, title, playedLongEnough (seconds elapsed) (toInt song.duration), ?_⟩
  have calls : endedCalls song elapsed now
      = [⟨song, playedLongEnough (seconds elapsed) (toInt song.duration), percentOf song elapsed,
          now⟩] := by
    simp only [endedCalls, statsSongEnded, if_pos duration, percent, List.map_cons, List.map_nil]
  have single (call : ProcessCall) : ((dbProcesses [call]).run intExec db).2
      = ((dbProcess call).run intExec db).2 := by
    rw [dbProcesses, dbProcesses, bind_eq, run_bind]
    rcases (dbProcess call).run intExec db with ⟨_ | _, _⟩ <;> rfl
  rw [rowAfter, calls, single, run_dbProcess_song]
  simp only [ProcessCall.upsertOf, tags, Option.bind_some, ProcessCall.upsert,
    Keyed.Table.upsertAnyRead, Keyed.Table.upsertRead]
  cases (db .song).access columnInt song.uri with
  | reached =>
      rw [Option.getD_some, Keyed.Table.get_upsert_self, known]
      rfl
  | missed => exact known
  | failed => exact known

theorem percentOf_nonneg (duration : 0 < toInt song.duration) (started : 0 ≤ seconds elapsed) :
    0 ≤ percentOf song elapsed := Int.ediv_nonneg (by omega) (by omega)

/-- The percentage is at most 100 for less than another hundredth of the song. -/
theorem percentOf_le (duration : 0 < toInt song.duration) :
    percentOf song elapsed ≤ 100 ↔ 100 * seconds elapsed < 101 * toInt song.duration := by
  rw [percentOf, ← Int.lt_add_one_iff, Int.ediv_lt_iff_lt_mul duration]
  rfl

/-- A play of at most the whole song is recorded, and one beyond it leaves the row as it is. -/
theorem changeSong_played (artist : Bytes) (title : Option Bytes) (increment : Bool)
    (duration : 0 < toInt song.duration) (started : 0 ≤ seconds elapsed) :
    RecordedAsPlayed (min 100 (percentOf song elapsed)) now before
        (changeSong song artist title increment (percentOf song elapsed) now before) ↔
      100 * seconds elapsed < 101 * toInt song.duration ∨
        RecordedAsPlayed (min 100 (percentOf song elapsed)) now before before := by
  have low := percentOf_nonneg song elapsed duration started
  rw [← percentOf_le song elapsed duration]
  by_cases within : percentOf song elapsed ≤ 100
  · refine iff_of_true ?_ (Or.inl within)
    have whole : min 100 (percentOf song elapsed) = percentOf song elapsed := by omega
    rw [whole, changeSong, played_percent _ low within]
    exact ⟨rfl, Karma.towards_val before.karma ⟨_, low, within⟩⟩
  · have beyond : 100 < percentOf song elapsed := Int.not_le.mp within
    rw [changeSong, played_beyond _ beyond, or_iff_right within]
    exact ⟨fun recorded => ⟨recorded.lastPlayed, recorded.karma⟩,
      fun recorded => ⟨recorded.lastPlayed, recorded.karma⟩⟩

theorem countsAsFullPlay_condition (accepted : (songCheckTags song.toSong).isSome)
    (known : (db .song).get song.uri = some before) (duration : 0 < toInt song.duration)
    (started : 0 ≤ seconds elapsed) :
    CountsAsFullPlay song elapsed now db before ↔
      ((db .song).access columnInt song.uri = .reached ∧
          100 * seconds elapsed < 101 * toInt song.duration) ∨
        RecordedAsPlayed (min 100 (percentOf song elapsed)) now before before := by
  rcases rowAfter_eq song elapsed now db before accepted known duration started with
    ⟨artist, title, increment, after⟩
  rw [CountsAsFullPlay, after]
  simp only [Option.some.injEq, exists_eq_left']
  by_cases reached : (db .song).access columnInt song.uri = .reached
  · rw [if_pos reached, changeSong_played song elapsed now before artist title increment duration
      started, and_iff_right reached]
  · rw [if_neg reached, or_iff_right fun both => reached both.1]

/-- Of two full plays the longer one does not leave the lower karma. -/
theorem karma_longer {longer : Int} {after later : SongData} (duration : 0 < toInt song.duration)
    (more : seconds elapsed ≤ seconds longer)
    (first : RecordedAsPlayed (min 100 (percentOf song elapsed)) now before after)
    (second : RecordedAsPlayed (min 100 (percentOf song longer)) now before later) :
    after.karma.val ≤ later.karma.val := by
  have percents : percentOf song elapsed ≤ percentOf song longer :=
    Int.ediv_le_ediv duration (by omega)
  rw [first.karma, second.karma]
  omega

/-- A play counts as a full play if and only if it ends before another hundredth of the song is
over and the id of the row can be read back, but for a row that has the time and the karma. -/
theorem countsAsFullPlay_iff (accepted : (songCheckTags song.toSong).isSome)
    (known : (db .song).get song.uri = some before) (duration : 0 < toInt song.duration)
    (started : 0 ≤ seconds elapsed) (fits : 100 * seconds elapsed ≤ intMax) :
    intPercent song elapsed = percentOf song elapsed ∧
      (CountsAsFullPlay song elapsed now db before ↔
        ((db .song).access columnInt song.uri = .reached ∧
            100 * seconds elapsed < 101 * toInt song.duration) ∨
          (before.lastPlayed = some now ∧
            before.karma.val
              = (before.karma.val + min 100 (percentOf song elapsed) + 1) / 2)) ∧
      ∀ longer, seconds elapsed ≤ seconds longer →
        CountsAsFullPlay song elapsed now db before → CountsAsFullPlay song longer now db before →
          ∃ after later, rowAfter song elapsed now db = some after ∧
            rowAfter song longer now db = some later ∧ after.karma.val ≤ later.karma.val := by
  refine ⟨?_, ?_, ?_⟩
  · have whole : wrapInt (seconds elapsed * 100) = seconds elapsed * 100 :=
      (wrapInt_eq_iff _).mpr ⟨by rw [intMin]; omega, by omega⟩
    rw [intPercent, whole, Int.tdiv_eq_ediv_of_nonneg (by omega), percentOf, Int.mul_comm]
  · rw [countsAsFullPlay_condition song elapsed now db before accepted known duration started]
    exact or_congr_right ⟨fun recorded => ⟨recorded.lastPlayed, recorded.karma⟩,
      fun recorded => ⟨recorded.1, recorded.2⟩⟩
  intro longer more first second
  rcases first with ⟨after, row, recorded⟩
  rcases second with ⟨later, laterRow, laterRecorded⟩
  exact ⟨after, later, row, laterRow,
    karma_longer song elapsed now before duration more recorded laterRecorded⟩

end Play

/-- A song of ten seconds, unplayed. -/
def shortSong : TaggedSong := { plainSong (lit "a.ogg") (lit "A") with duration := 10 }

def shortSongs : Database :=
  Database.empty.upsertAll [{ song := shortSong, increment := false, percentPlayed := -1, now := 0 }]

def shortRow : SongData := freshSong shortSong (lit "A") none false (-1) 0

theorem shortSongs_get : (shortSongs .song).get shortSong.uri = some shortRow := by
  decide +kernel

theorem countsAsFullPlay_ten :
    CountsAsFullPlay shortSong 10000000 1700000000 shortSongs shortRow :=
  (countsAsFullPlay_iff shortSong 10000000 1700000000 shortSongs shortRow rfl shortSongs_get
    (by decide) (by decide) (by decide)).2.1.mpr (Or.inl ⟨by decide +kernel, by decide⟩)

/-- After eleven seconds the song is not recorded as played at all. -/
theorem eleventh_second_unrecorded :
    ¬((songCheckTags shortSong.toSong).isSome →
      (shortSongs .song).get shortSong.uri = some shortRow → 0 < toInt shortSong.duration →
      0 ≤ seconds 11000000 → 100 * seconds 11000000 ≤ intMax →
      CountsAsFullPlay shortSong 11000000 1700000000 shortSongs shortRow) := by
  intro counts
  have recorded := counts rfl shortSongs_get (by decide) (by decide) (by decide)
  rw [countsAsFullPlay_condition shortSong 11000000 1700000000 shortSongs shortRow rfl
    shortSongs_get (by decide) (by decide)] at recorded
  rcases recorded with ⟨_, short⟩ | same
  · exact absurd short (by decide)
  · exact absurd same.lastPlayed (by decide)

/-! ### An insert and an update -/

section Insert

variable (song : TaggedSong) (artist : Bytes) (title : Option Bytes) (increment : Bool)
  (percentPlayed now : Int) (db : Database)

/-- The song is inserted unplayed and updated then, at the same time of the clock. -/
def insertThenUpdate : DbScript (Option Int) := do
  let _ ← dbInsertSong song artist title false (-1) now
  match ← dbHasSong song.uri with
  | none => pure none
  | some id => dbUpdateSong song artist title id increment percentPlayed now

/-- Both ways succeed and leave one row for the song, the same but for its id. -/
def SameRow : Prop :=
  ∃ inserted updated,
    (dbInsertSong song artist title increment percentPlayed now).run dbExec db
        = (some none, inserted) ∧
      (insertThenUpdate song artist title increment percentPlayed now).run dbExec db
        = (some none, updated) ∧
      ((inserted .song).get song.uri).isSome ∧
      (inserted .song).get song.uri = (updated .song).get song.uri

theorem changeSong_freshSong :
    freshSong song artist title increment percentPlayed now
        = changeSong song artist title increment percentPlayed now
          (freshSong song artist title false (-1) now) ↔
      played percentPlayed = none ∨ wrapInt now = now := by
  have counted : (freshCounters false).count increment = freshCounters increment := by
    cases increment <;> rfl
  have unplayed : played (-1) = none := rfl
  rw [changeSong]
  cases played : played percentPlayed with
  | none => simp [freshSong, played, unplayed, counted]
  | some percent => simp [freshSong, played, unplayed, counted]

theorem run_insert (data : SongData) (fresh : (db .song).find song.uri = none) :
    (Script.call ⟨.song, .insert song.uri data⟩ : DbScript (Option Int)).run dbExec db
      = (some none, Function.update db .song ((db .song).append song.uri data)) := by
  have inserted := (db .song).insert_free song.uri data fresh
  simp [Script.call, run, execAt, Keyed.exec, inserted]

theorem run_insertThenUpdate (fresh : (db .song).find song.uri = none) :
    (insertThenUpdate song artist title increment percentPlayed now).run dbExec db
      = (some none, Function.update db .song
          (((db .song).append song.uri (freshSong song artist title false (-1) now)).modify song.uri
            (changeSong song artist title increment percentPlayed now))) := by
  have appended := run_insert song db (freshSong song artist title false (-1) now) fresh
  generalize unplayed : (db .song).append song.uri (freshSong song artist title false (-1) now) = table
    at appended ⊢
  have holds : table.get song.uri = some (freshSong song artist title false (-1) now) := by
    rw [← unplayed, Keyed.Table.get_append _ _ _ _ fresh, if_pos rfl]
  rcases Option.map_eq_some_iff.mp holds with ⟨row, found, _⟩
  have updated := table.update_found song.uri
    (changeSong song artist title increment percentPlayed now) row found
  rw [insertThenUpdate, bind_eq, run_bind, dbInsertSong, appended]
  simp [dbHasSong, dbUpdateSong, Script.call, bind_eq, Script.bind, run, execAt, Keyed.exec, found,
    updated]

/-- An insert is an unplayed insert and an update, but for the play time: the update has the clock,
and the insert what an `int` keeps of it. -/
theorem insert_eq_update_iff (fresh : (db .song).find song.uri = none) :
    SameRow song artist title increment percentPlayed now db ↔
      played percentPlayed = none ∨ wrapInt now = now := by
  have inserted := run_insert song db
    (freshSong song artist title increment percentPlayed now) fresh
  have updated := run_insertThenUpdate song artist title increment percentPlayed now db fresh
  rw [← changeSong_freshSong song artist title increment percentPlayed now]
  have direct : ((Function.update db .song ((db .song).append song.uri
      (freshSong song artist title increment percentPlayed now))) .song).get song.uri
        = some (freshSong song artist title increment percentPlayed now) := by
    rw [Function.update_self, Keyed.Table.get_append _ _ _ _ fresh, if_pos rfl]
  have changed : ((Function.update db .song
      (((db .song).append song.uri (freshSong song artist title false (-1) now)).modify song.uri
        (changeSong song artist title increment percentPlayed now))) .song).get song.uri
        = some (changeSong song artist title increment percentPlayed now
          (freshSong song artist title false (-1) now)) := by
    rw [Function.update_self, Keyed.Table.get_modify, if_pos rfl,
      Keyed.Table.get_append _ _ _ _ fresh, if_pos rfl]
    rfl
  constructor
  · rintro ⟨one, two, first, second, _, same⟩
    rw [dbInsertSong, inserted, Prod.mk.injEq] at first
    rw [updated, Prod.mk.injEq] at second
    rw [← first.2, ← second.2, direct, changed] at same
    exact Option.some.inj same
  · intro same
    refine ⟨_, _, inserted, updated, by rw [direct]; rfl, ?_⟩
    rw [direct, changed, ← same]

end Insert

theorem sameRow_unplayed :
    SameRow shortSong (lit "A") none true (-1) (2 ^ 31) Database.empty :=
  (insert_eq_update_iff shortSong (lit "A") none true (-1) (2 ^ 31) Database.empty rfl).mpr
    (Or.inl rfl)

/-- A second after the end of an `int` the two differ. -/
theorem insert_late_differs :
    ¬((Database.empty .song).find shortSong.uri = none →
      SameRow shortSong (lit "A") none true 100 (2 ^ 31) Database.empty) := by
  intro same
  rcases same rfl with ⟨inserted, updated, first, second, _, rows⟩
  rw [dbInsertSong, run_insert shortSong Database.empty _ rfl, Prod.mk.injEq] at first
  rw [run_insertThenUpdate shortSong (lit "A") none true 100 (2 ^ 31) Database.empty rfl,
    Prod.mk.injEq] at second
  rw [← first.2, ← second.2] at rows
  exact absurd rows (by decide +kernel)

end Mpdcron.Stats
