import Mpdcron.Scrobbler.JournalRoundTrip

/-! Lines that do not fit the buffer of `journal_read`: when the pieces of a line say together
what the line says. -/

namespace Mpdcron.AudioScrobbler

open CString

/-! ### What a buffer sets -/

/-- What a `key = value` that the journal knows does to the record. -/
inductive Setting where
  | artist (value : Bytes)
  | track (value : Bytes)
  | album (value : Bytes)
  | number (value : Bytes)
  | mbid (value : Bytes)
  | time (value : Bytes)
  | length (value : Int)
  | radio
  deriving DecidableEq, Repr

/-- The letter of its key. -/
def Setting.field : Setting → UInt8
  | .artist _ => 97
  | .track _ => 116
  | .album _ => 98
  | .number _ => 110
  | .mbid _ => 109
  | .time _ => 105
  | .length _ => 108
  | .radio => 111

def JournalReading.put (reading : JournalReading) : Setting → JournalReading
  | .artist value =>
      { journalCommitRecord reading with record := { recordClear with artist := some value } }
  | .track value => { reading with record := { reading.record with track := some value } }
  | .album value => { reading with record := { reading.record with album := some value } }
  | .number value => { reading with record := { reading.record with number := some value } }
  | .mbid value => { reading with record := { reading.record with mbid := some value } }
  | .time value => { reading with record := { reading.record with time := some value } }
  | .length value => { reading with record := { reading.record with length := value } }
  | .radio => { reading with record := { reading.record with source := some (lit "R") } }

section Reading

variable (iso8601 : Bytes → Option Int)

def settingOf (key value : Bytes) : Option Setting :=
  if key = lit "a" then some (.artist value)
  else if key = lit "t" then some (.track value)
  else if key = lit "b" then some (.album value)
  else if key = lit "n" then some (.number value)
  else if key = lit "m" then some (.mbid value)
  else if key = lit "i" then some (.time (parseTimestamp iso8601 value))
  else if key = lit "l" then some (.length (atoi value))
  else if key = lit "o" ∧ value.head? = some 82 then some .radio
  else none

/-- What one turn of the loop sets, if anything. -/
def setting (line : Bytes) : Option Setting :=
  let key := chug (upToNul line)
  if key = [] ∨ key.head? = some 35 then none
  else if 61 ∉ key ∨ key.head? = some 61 then none
  else
    let value := key.drop ((key.takeWhile (· ≠ 61)).length + 1)
    settingOf iso8601 (chomp (key.takeWhile (· ≠ 61))) (strip value)

theorem journalReadPair_eq (key value : Bytes) (reading : JournalReading) :
    journalReadPair iso8601 key value reading =
      (settingOf iso8601 key value).elim reading reading.put := by
  rw [journalReadPair, settingOf]
  split_ifs
  · simp [JournalReading.put]
  all_goals rfl

theorem journalReadLine_eq (reading : JournalReading) (line : Bytes) :
    journalReadLine iso8601 reading line = (setting iso8601 line).elim reading reading.put := by
  rw [journalReadLine, setting]
  dsimp only
  split_ifs
  · rfl
  · rfl
  · exact journalReadPair_eq iso8601 _ _ reading

/-- What the buffers of a line set, one after the other. -/
def pieces (line : Bytes) : List Setting := (fgetsAll 1024 [] line).filterMap (setting iso8601)

theorem readBuffers_pieces (reading : JournalReading) (line : Bytes) :
    readBuffers (journalReadLine iso8601) 1024 reading line =
      (pieces iso8601 line).foldl JournalReading.put reading := by
  rw [readBuffers, pieces, List.foldl_filterMap]
  congr 1
  funext reading buffer
  rw [journalReadLine_eq]
  cases setting iso8601 buffer <;> rfl

end Reading

/-! ### Settings one after the other -/

/-- The record has what the setting sets. -/
def Setting.Holds (record : Record) : Setting → Prop
  | .artist value => record.artist = some value
  | .track value => record.track = some value
  | .album value => record.album = some value
  | .number value => record.number = some value
  | .mbid value => record.mbid = some value
  | .time value => record.time = some value
  | .length value => record.length = value
  | .radio => record.source = some (lit "R")

theorem put_holds (reading : JournalReading) (setting : Setting) :
    setting.Holds (reading.put setting).record := by
  cases setting <;> rfl

theorem put_holds_other (reading : JournalReading) (setting other : Setting)
    (different : setting.field ≠ other.field) (noArtist : other.field ≠ 97) :
    setting.Holds (reading.put other).record ↔ setting.Holds reading.record := by
  cases other with
  | artist value => exact absurd rfl noArtist
  | _ =>
      cases setting <;> first
        | exact Iff.rfl
        | exact absurd rfl different

theorem holds_unique {record : Record} {first second : Setting} (same : first.field = second.field)
    (isFirst : first.Holds record) (isSecond : second.Holds record) : first = second := by
  cases first <;> cases second <;> first
    | rfl
    | exact absurd same (ne_of_beq_false rfl)
    | exact congrArg _ (Option.some.inj (isFirst.symm.trans isSecond))
    | exact congrArg _ (isFirst.symm.trans isSecond)

/-- No setting holds of every record that can be committed. -/
theorem holds_refutable (setting : Setting) :
    ∃ record : Record, record.isDefined ∧ ¬ setting.Holds record := by
  have longer (value : Bytes) : ¬ some (0 :: value) = some value := by simp
  cases setting with
  | artist value =>
      exact ⟨⟨some (0 :: value), some [], none, none, none, none, 0, none⟩, rfl, longer value⟩
  | track value =>
      exact ⟨⟨some [], some (0 :: value), none, none, none, none, 0, none⟩, rfl, longer value⟩
  | length value =>
      refine ⟨⟨some [], some [], none, none, none, none, value + 1, none⟩, rfl, ?_⟩
      change ¬ value + 1 = value
      omega
  | _ =>
      refine ⟨⟨some [], some [], none, none, none, none, 0, none⟩, rfl, ?_⟩
      intro same
      cases same

theorem put_overwritten (reading : JournalReading) (first second : Setting)
    (same : first.field = second.field) (noArtist : second.field ≠ 97) :
    (reading.put first).put second = reading.put second := by
  cases second with
  | artist value => exact absurd rfl noArtist
  | _ =>
      cases first <;> first
        | rfl
        | exact absurd same (ne_of_beq_false rfl)

/-! ### The queue -/

theorem put_queue (reading : JournalReading) (setting : Setting) (noArtist : setting.field ≠ 97) :
    (reading.put setting).queue = reading.queue ∧
      (reading.record.isDefined → (reading.put setting).record.isDefined) := by
  cases setting with
  | artist value => exact absurd rfl noArtist
  | track value =>
      refine ⟨rfl, ?_⟩
      intro isDefined
      simp only [Record.isDefined, Bool.and_eq_true] at isDefined ⊢
      exact ⟨isDefined.1, rfl⟩
  | _ => exact ⟨rfl, id⟩

theorem put_queue_grows (reading : JournalReading) (setting : Setting) :
    ∃ more, (reading.put setting).queue = reading.queue ++ more := by
  by_cases isArtist : setting.field = 97
  · cases setting with
    | artist value =>
        by_cases isDefined : reading.record.isDefined = true
        · exact ⟨[reading.record], by simp [JournalReading.put, journalCommitRecord, isDefined]⟩
        · exact ⟨[], by simp [JournalReading.put, journalCommitRecord, isDefined]⟩
    | _ => exact absurd isArtist (ne_of_beq_false rfl)
  · exact ⟨[], by rw [(put_queue reading setting isArtist).1, List.append_nil]⟩

theorem foldl_put_queue_grows (settings : List Setting) : ∀ reading : JournalReading,
    ∃ more, (settings.foldl JournalReading.put reading).queue = reading.queue ++ more := by
  induction settings with
  | nil =>
      intro reading
      exact ⟨[], (List.append_nil _).symm⟩
  | cons setting settings ih =>
      intro reading
      rcases put_queue_grows reading setting with ⟨first, queue⟩
      rcases ih (reading.put setting) with ⟨more, later⟩
      exact ⟨first ++ more, by rw [List.foldl_cons, later, queue, List.append_assoc]⟩

theorem foldl_put_queue (settings : List Setting) : ∀ reading : JournalReading,
    (∀ setting ∈ settings, setting.field ≠ 97) →
    (settings.foldl JournalReading.put reading).queue = reading.queue ∧
      (reading.record.isDefined →
        (settings.foldl JournalReading.put reading).record.isDefined) := by
  induction settings with
  | nil =>
      intro reading _
      exact ⟨rfl, id⟩
  | cons setting settings ih =>
      intro reading noArtist
      rw [List.forall_mem_cons] at noArtist
      rcases put_queue reading setting noArtist.1 with ⟨queue, defined⟩
      rcases ih (reading.put setting) noArtist.2 with ⟨laterQueue, laterDefined⟩
      exact ⟨laterQueue.trans queue, fun isDefined => laterDefined (defined isDefined)⟩

/-- The first artist commits what was set before it. -/
theorem foldl_put_commits (front back : List Setting) (value : Bytes)
    (noArtist : ∀ setting ∈ front, setting.field ≠ 97) (reading : JournalReading)
    (isDefined : reading.record.isDefined) :
    ∃ more, ((front ++ .artist value :: back).foldl JournalReading.put reading).queue =
      reading.queue ++ (front.foldl JournalReading.put reading).record :: more := by
  rcases foldl_put_queue front reading noArtist with ⟨queue, defined⟩
  rcases foldl_put_queue_grows back
    ((front.foldl JournalReading.put reading).put (.artist value)) with ⟨more, later⟩
  refine ⟨more, ?_⟩
  rw [List.foldl_append, List.foldl_cons, later]
  simp [JournalReading.put, journalCommitRecord, defined isDefined, queue]

theorem first_artist (settings : List Setting) (artist : ∃ setting ∈ settings, setting.field = 97) :
    ∃ front value back, settings = front ++ .artist value :: back ∧
      ∀ setting ∈ front, setting.field ≠ 97 := by
  have found : (settings.find? (·.field = 97)).isSome := by simpa using artist
  rcases Option.isSome_iff_exists.mp found with ⟨setting, isFirst⟩
  rcases List.find?_eq_some_iff_append.mp isFirst with ⟨isArtist, front, back, split, others⟩
  have noArtist : ∀ other ∈ front, other.field ≠ 97 := by simpa using others
  cases setting with
  | artist value => exact ⟨front, value, back, split, noArtist⟩
  | _ => exact absurd (of_decide_eq_true isArtist) (ne_of_beq_false rfl)

/-- From a record that can be committed, an artist adds to the queue. -/
theorem foldl_put_adds (settings : List Setting) (artist : ∃ setting ∈ settings, setting.field = 97)
    (reading : JournalReading) (isDefined : reading.record.isDefined) :
    ∃ front value back more, settings = front ++ .artist value :: back ∧
      (∀ setting ∈ front, setting.field ≠ 97) ∧
      (settings.foldl JournalReading.put reading).queue =
        reading.queue ++ (front.foldl JournalReading.put reading).record :: more := by
  rcases first_artist settings artist with ⟨front, value, back, rfl, noArtist⟩
  rcases foldl_put_commits front back value noArtist reading isDefined with ⟨more, queue⟩
  exact ⟨front, value, back, more, rfl, noArtist, queue⟩

/-! ### What the settings of a list leave -/

theorem foldl_put_holds_other (setting : Setting) (settings : List Setting) :
    ∀ reading : JournalReading,
    (∀ other ∈ settings, setting.field ≠ other.field ∧ other.field ≠ 97) →
    (setting.Holds (settings.foldl JournalReading.put reading).record ↔
      setting.Holds reading.record) := by
  induction settings with
  | nil =>
      intro reading _
      exact Iff.rfl
  | cons other settings ih =>
      intro reading others
      rw [List.forall_mem_cons] at others
      rw [List.foldl_cons, ih _ others.2, put_holds_other reading setting other others.1.1 others.1.2]

/-- Where no artist is set, the last setting of a field stays. -/
theorem exists_last_holds (settings : List Setting) (setting : Setting) :
    (∀ other ∈ settings, other.field ≠ 97) → setting ∈ settings →
    ∃ last ∈ settings, last.field = setting.field ∧
      ∀ reading : JournalReading,
        last.Holds (settings.foldl JournalReading.put reading).record := by
  induction settings using List.reverseRecOn with
  | nil =>
      intro _ member
      cases member
  | append_singleton settings newest ih =>
      intro noArtist member
      rw [List.forall_mem_append, List.forall_mem_singleton] at noArtist
      by_cases same : newest.field = setting.field
      · refine ⟨newest, List.mem_append_right _ (List.mem_singleton_self newest), same, ?_⟩
        intro reading
        rw [List.foldl_concat]
        exact put_holds _ newest
      · have earlier : setting ∈ settings := by
          rcases List.mem_append.mp member with isEarlier | isNewest
          · exact isEarlier
          · exact absurd (congrArg Setting.field (List.mem_singleton.mp isNewest)).symm same
        rcases ih noArtist.1 earlier with ⟨last, isEarlier, sameField, holds⟩
        refine ⟨last, List.mem_append_left _ isEarlier, sameField, ?_⟩
        intro reading
        have different : last.field ≠ newest.field := fun isSame => same (isSame.symm.trans sameField)
        rw [List.foldl_concat, put_holds_other _ last newest different noArtist.2]
        exact holds reading

/-- Settings of one field come to the last of them. -/
theorem foldl_put_field (settings : List Setting) (setting : Setting)
    (noArtist : setting.field ≠ 97) : ∀ reading : JournalReading,
    (∀ other ∈ settings, other.field = setting.field) →
    (settings.foldl JournalReading.put reading).put setting = reading.put setting := by
  induction settings with
  | nil =>
      intro reading _
      rfl
  | cons other settings ih =>
      intro reading same
      rw [List.forall_mem_cons] at same
      rw [List.foldl_cons, ih _ same.2, put_overwritten reading other setting same.1 noArtist]

/-- While no track is set nothing is committed. -/
theorem foldl_put_trackless (settings : List Setting) : ∀ reading : JournalReading,
    reading.record.track = none → (∀ setting ∈ settings, setting.field ≠ 116) →
    let next := settings.foldl JournalReading.put reading
    next.queue = reading.queue ∧ next.journalFileEmpty = reading.journalFileEmpty ∧
      next.record.track = none := by
  induction settings with
  | nil =>
      intro reading none _
      exact ⟨rfl, rfl, none⟩
  | cons setting settings ih =>
      intro reading none noTrack
      rw [List.forall_mem_cons] at noTrack
      have undefined : reading.record.isDefined = false := by simp [Record.isDefined, none]
      have step : (reading.put setting).queue = reading.queue ∧
          (reading.put setting).journalFileEmpty = reading.journalFileEmpty ∧
          (reading.put setting).record.track = Option.none := by
        cases setting with
        | track value => exact absurd rfl noTrack.1
        | artist value => simp [JournalReading.put, journalCommitRecord, undefined, recordClear]
        | _ => exact ⟨rfl, rfl, none⟩
      rcases ih (reading.put setting) step.2.2 noTrack.2 with ⟨queue, empty, track⟩
      exact ⟨queue.trans step.1, empty.trans step.2.1, track⟩

/-! ### When settings amount to one -/

/-- The settings do together what the target does. Those of an artist may come to it more than
once, as long as there is no track to commit, and may clear the length that is clear. -/
def AmountsTo (settings : List Setting) : Option Setting → Prop
  | none => settings = []
  | some (.artist value) => ∃ earlier lengths, settings = earlier ++ .artist value :: lengths ∧
      (∀ first ∈ earlier.head?, first.field = 97) ∧ (∀ setting ∈ earlier, setting.field ≠ 116) ∧
      (∀ setting ∈ lengths, setting.field = 108) ∧ ∀ last ∈ lengths.getLast?, last = .length 0
  | some setting =>
      settings.getLast? = some setting ∧ ∀ other ∈ settings, other.field = setting.field

theorem put_artist_congr (first second : JournalReading) (value : Bytes)
    (queue : (journalCommitRecord first).queue = (journalCommitRecord second).queue)
    (empty : (journalCommitRecord first).journalFileEmpty
      = (journalCommitRecord second).journalFileEmpty) :
    first.put (.artist value) = second.put (.artist value) := by
  simp only [JournalReading.put, queue, empty]

/-- Artists before the last one do nothing more than it does. -/
theorem put_artist_earlier (earlier : List Setting) (value : Bytes) (reading : JournalReading)
    (artists : ∀ first ∈ earlier.head?, first.field = 97)
    (noTrack : ∀ setting ∈ earlier, setting.field ≠ 116) :
    (earlier.foldl JournalReading.put reading).put (.artist value) = reading.put (.artist value) := by
  cases earlier with
  | nil => rfl
  | cons first earlier =>
      cases first with
      | artist other =>
          rw [List.forall_mem_cons] at noTrack
          rcases foldl_put_trackless earlier (reading.put (.artist other)) rfl noTrack.2 with
            ⟨queue, empty, track⟩
          have undefined : (earlier.foldl JournalReading.put
              (reading.put (.artist other))).record.isDefined = false := by
            simp [Record.isDefined, track]
          apply put_artist_congr
          · simp only [List.foldl_cons, journalCommitRecord, undefined, queue]
            rfl
          · simp only [List.foldl_cons, journalCommitRecord, undefined, empty]
            rfl
      | _ => exact absurd (artists _ rfl) (ne_of_beq_false rfl)

theorem foldl_put_of_amountsTo (settings : List Setting) (target : Option Setting)
    (amounts : AmountsTo settings target) (reading : JournalReading) :
    settings.foldl JournalReading.put reading = target.elim reading reading.put := by
  have single (setting : Setting) (noArtist : setting.field ≠ 97)
      (last : settings.getLast? = some setting)
      (fields : ∀ other ∈ settings, other.field = setting.field) :
      settings.foldl JournalReading.put reading = reading.put setting := by
    rcases List.getLast?_eq_some_iff.mp last with ⟨front, rfl⟩
    rw [List.foldl_concat]
    exact foldl_put_field front setting noArtist reading
      (fun other member => fields other (List.mem_append_left _ member))
  cases target with
  | none =>
      cases amounts
      rfl
  | some setting =>
      cases setting with
      | artist value =>
          rcases amounts with ⟨earlier, lengths, rfl, artists, noTrack, fields, last⟩
          rw [List.foldl_append, List.foldl_cons,
            put_artist_earlier earlier value reading artists noTrack]
          cases end_ : lengths.getLast? with
          | none =>
              rw [List.getLast?_eq_none_iff] at end_
              rw [end_]
              rfl
          | some setting =>
              have zero := last setting end_
              subst zero
              rcases List.getLast?_eq_some_iff.mp end_ with ⟨front, rfl⟩
              rw [List.foldl_concat, foldl_put_field front (.length 0) (by decide) _
                (fun other member => fields other (List.mem_append_left _ member))]
              rfl
      | _ => exact single _ (ne_of_beq_false rfl) amounts.1 amounts.2

/-- Where the target commits nothing, no piece of the line may. -/
theorem noArtist_of_foldl (settings : List Setting) (target : Option Setting)
    (same : ∀ reading, settings.foldl JournalReading.put reading = target.elim reading reading.put)
    (other : ∀ setting ∈ target, setting.field ≠ 97) : ∀ setting ∈ settings, setting.field ≠ 97 := by
  by_contra artist
  push Not at artist
  rcases holds_refutable .radio with ⟨record, isDefined, -⟩
  rcases foldl_put_adds settings artist ⟨[], record, true⟩ isDefined with ⟨_, _, _, _, _, _, queue⟩
  rw [same] at queue
  cases target with
  | none => cases queue
  | some setting =>
      rw [Option.elim_some, (put_queue _ setting (other setting rfl)).1] at queue
      cases queue

/-- Each piece sets the target's field: any other field would be changed for good. -/
theorem field_of_foldl (settings : List Setting) (target : Option Setting)
    (same : ∀ reading, settings.foldl JournalReading.put reading = target.elim reading reading.put)
    (other : ∀ setting ∈ target, setting.field ≠ 97) (setting : Setting)
    (member : setting ∈ settings) : ∃ goal ∈ target, setting.field = goal.field := by
  have noArtist := noArtist_of_foldl settings target same other
  rcases exists_last_holds settings setting noArtist member with ⟨last, -, sameField, holds⟩
  rcases holds_refutable last with ⟨record, -, refuted⟩
  have left := holds ⟨[], record, true⟩
  rw [same] at left
  cases target with
  | none => exact absurd left refuted
  | some goal =>
      by_cases different : last.field = goal.field
      · exact ⟨goal, rfl, sameField.symm.trans different⟩
      · rw [Option.elim_some, put_holds_other _ last goal different (other goal rfl)] at left
        exact absurd left refuted

theorem amountsTo_single (settings : List Setting) (setting : Setting)
    (noArtist : setting.field ≠ 97)
    (same : ∀ reading, settings.foldl JournalReading.put reading = reading.put setting) :
    settings.getLast? = some setting ∧ ∀ other ∈ settings, other.field = setting.field := by
  have fields (other : Setting) (member : other ∈ settings) : other.field = setting.field := by
    rcases field_of_foldl settings (some setting) same (by simpa using noArtist) other member with
      ⟨goal, isGoal, sameField⟩
    cases isGoal
    exact sameField
  refine ⟨?_, fields⟩
  rcases holds_refutable setting with ⟨record, -, refuted⟩
  cases settings using List.reverseRecOn with
  | nil =>
      have left := put_holds ⟨[], record, true⟩ setting
      rw [← same] at left
      exact absurd left refuted
  | append_singleton front last =>
      rw [List.getLast?_concat]
      have left : last.Holds
          ((front ++ [last]).foldl JournalReading.put ⟨[], record, true⟩).record := by
        rw [List.foldl_concat]
        exact put_holds _ last
      rw [same] at left
      have sameField := fields last (List.mem_append_right _ (List.mem_singleton_self last))
      rw [holds_unique sameField left (put_holds _ setting)]

/-- What a clear record with an artist may have been set to after the artist. -/
theorem length_of_clear (setting : Setting) (noArtist : setting.field ≠ 97) (value : Bytes)
    (holds : setting.Holds { recordClear with artist := some value }) : setting = .length 0 := by
  cases setting with
  | artist other => exact absurd rfl noArtist
  | length seconds => exact congrArg Setting.length (Eq.symm holds)
  | _ => cases holds

theorem foldl_put_artist (settings : List Setting) : ∀ reading : JournalReading,
    reading.record.artist.isSome → (settings.foldl JournalReading.put reading).record.artist.isSome := by
  induction settings with
  | nil =>
      intro reading given
      exact given
  | cons setting settings ih =>
      intro reading given
      apply ih
      cases setting with
      | artist value => rfl
      | _ => exact given

/-- A track between two artists is committed with the first of them. -/
theorem foldl_put_commits_track (front back : List Setting) (first last track : Bytes)
    (middle : List Setting) (reading : JournalReading) :
    reading.queue.length <
      ((Setting.artist first :: front ++ .track track :: middle ++ .artist last :: back).foldl
        JournalReading.put reading).queue.length := by
  have isDefined : ((Setting.artist first :: front ++ [Setting.track track]).foldl
      JournalReading.put reading).record.isDefined := by
    have given := foldl_put_artist front (reading.put (.artist first)) rfl
    rw [List.foldl_concat, Record.isDefined, Bool.and_eq_true]
    exact ⟨given, rfl⟩
  have artist : ∃ setting ∈ middle ++ .artist last :: back, setting.field = 97 :=
    ⟨_, List.mem_append_right _ List.mem_cons_self, rfl⟩
  rcases foldl_put_adds _ artist _ isDefined with ⟨_, _, _, more, _, _, queue⟩
  rcases foldl_put_queue_grows (.artist first :: front ++ [.track track]) reading with
    ⟨earlier, before⟩
  have split : (.artist first :: front ++ .track track :: middle ++ .artist last :: back : List Setting)
      = (.artist first :: front ++ [.track track]) ++ (middle ++ .artist last :: back) := by
    simp
  rw [split, List.foldl_append, queue, before]
  simp only [List.length_append, List.length_cons]
  omega

/-- Nothing comes before the first artist, as it would be committed. -/
theorem nil_of_foldl_artist (front back : List Setting) (first value : Bytes)
    (noArtist : ∀ setting ∈ front, setting.field ≠ 97)
    (same : ∀ reading, (front ++ .artist first :: back).foldl JournalReading.put reading =
      reading.put (.artist value)) : front = [] := by
  apply List.eq_nil_iff_forall_not_mem.mpr
  intro setting member
  rcases exists_last_holds front setting noArtist member with ⟨last, -, -, holds⟩
  rcases holds_refutable last with ⟨record, isDefined, refuted⟩
  rcases foldl_put_commits front back first noArtist ⟨[], record, true⟩ isDefined with ⟨more, queue⟩
  have committed : ((⟨[], record, true⟩ : JournalReading).put (.artist value)).queue = [record] := by
    simp [JournalReading.put, journalCommitRecord, isDefined]
  rw [same, committed] at queue
  have left := holds ⟨[], record, true⟩
  rw [← (List.cons.inj queue).1] at left
  exact refuted left

theorem last_artist (settings : List Setting) (artist : ∃ setting ∈ settings, setting.field = 97) :
    ∃ front value back, settings = front ++ .artist value :: back ∧
      ∀ setting ∈ back, setting.field ≠ 97 := by
  have artistBack : ∃ setting ∈ settings.reverse, setting.field = 97 := by simpa using artist
  rcases first_artist settings.reverse artistBack with ⟨after, value, before, split, noLater⟩
  refine ⟨before.reverse, value, after.reverse, ?_, by simpa using noLater⟩
  rw [← List.reverse_reverse settings, split]
  simp

theorem artist_of_foldl (settings : List Setting) (value : Bytes)
    (same : ∀ reading, settings.foldl JournalReading.put reading = reading.put (.artist value)) :
    ∃ setting ∈ settings, setting.field = 97 := by
  by_contra noArtist
  push Not at noArtist
  rcases holds_refutable .radio with ⟨record, isDefined, -⟩
  have queue := (foldl_put_queue settings ⟨[], record, true⟩ noArtist).1
  rw [same] at queue
  simp [JournalReading.put, journalCommitRecord, isDefined] at queue

/-- After the last artist only the length is set, and it is clear at the end. -/
theorem lengths_of_clear (later : List Setting) (value : Bytes) (reading : JournalReading)
    (noLater : ∀ setting ∈ later, setting.field ≠ 97)
    (leaves : (later.foldl JournalReading.put reading).record =
      { recordClear with artist := some value }) :
    (∀ setting ∈ later, setting.field = 108) ∧ ∀ last ∈ later.getLast?, last = .length 0 := by
  constructor
  · intro setting member
    rcases exists_last_holds later setting noLater member with ⟨final, isLater, field, holds⟩
    have left := holds reading
    rw [leaves] at left
    rw [← field, length_of_clear final (noLater final isLater) value left]
    rfl
  · intro final isFinal
    rcases List.getLast?_eq_some_iff.mp isFinal with ⟨inner, rfl⟩
    rw [List.foldl_concat] at leaves
    have holds := put_holds (inner.foldl JournalReading.put reading) final
    rw [leaves] at holds
    have isLater := List.mem_append_right inner (List.mem_singleton_self final)
    exact length_of_clear final (noLater final isLater) value holds

theorem last_of_leaves (last value : Bytes) (later : List Setting) (reading : JournalReading)
    (lengths : ∀ setting ∈ later, setting.field = 108)
    (leaves : (later.foldl JournalReading.put (reading.put (.artist last))).record =
      { recordClear with artist := some value }) : last = value := by
  have kept := (foldl_put_holds_other (.artist last) later (reading.put (.artist last))
    (fun other member => lengths other member ▸ ⟨ne_of_beq_false rfl, by decide⟩)).mpr
    (put_holds _ _)
  rw [leaves] at kept
  exact (Option.some.inj kept).symm

/-- A track between the first artist and the last one would be committed. -/
theorem trackless_of_foldl (earlier later rest : List Setting) (first last value : Bytes)
    (split : .artist first :: rest = earlier ++ .artist last :: later)
    (same : ∀ reading, (earlier ++ .artist last :: later).foldl JournalReading.put reading =
      reading.put (.artist value)) : ∀ setting ∈ earlier, setting.field ≠ 116 := by
  intro setting member isTrack
  rcases List.append_of_mem member with ⟨inner, outer, rfl⟩
  cases setting with
  | track track =>
      cases inner with
      | nil => cases split
      | cons other inner =>
          have isFirst : .artist first = other := (List.cons.inj split).1
          subst isFirst
          have grown := foldl_put_commits_track inner later first last track outer
            ⟨[], recordClear, true⟩
          have whole : .artist first :: inner ++ .track track :: outer ++ .artist last :: later
              = (.artist first :: inner ++ .track track :: outer) ++ .artist last :: later := by
            simp
          rw [whole, same] at grown
          exact absurd grown (Nat.not_lt_zero _)
  | _ => exact absurd isTrack (ne_of_beq_false rfl)

theorem amountsTo_artist (settings : List Setting) (value : Bytes)
    (same : ∀ reading, settings.foldl JournalReading.put reading = reading.put (.artist value)) :
    AmountsTo settings (some (.artist value)) := by
  have artist := artist_of_foldl settings value same
  rcases first_artist settings artist with ⟨front, first, back, firstSplit, noArtist⟩
  have start := nil_of_foldl_artist front back first value noArtist (firstSplit ▸ same)
  rw [start, List.nil_append] at firstSplit
  rcases last_artist settings artist with ⟨earlier, last, later, rfl, noLater⟩
  have leaves : (later.foldl JournalReading.put
      ((earlier.foldl JournalReading.put ⟨[], recordClear, true⟩).put (.artist last))).record =
        { recordClear with artist := some value } := by
    rw [← List.foldl_cons, ← List.foldl_append, same]
    rfl
  rcases lengths_of_clear later value _ noLater leaves with ⟨lengths, isClear⟩
  have isLast := last_of_leaves last value later _ lengths leaves
  subst isLast
  refine ⟨earlier, later, rfl, ?_,
    trackless_of_foldl earlier later back first last last firstSplit.symm same, lengths, isClear⟩
  intro setting isHead
  cases earlier with
  | nil => cases isHead
  | cons other earlier =>
      rw [List.head?_cons, Option.mem_some_iff] at isHead
      rw [← isHead, (List.cons.inj firstSplit).1]
      rfl

theorem foldl_put_iff (settings : List Setting) (target : Option Setting) :
    (∀ reading, settings.foldl JournalReading.put reading = target.elim reading reading.put) ↔
      AmountsTo settings target := by
  constructor
  · intro same
    cases target with
    | none =>
        apply List.eq_nil_iff_forall_not_mem.mpr
        intro setting member
        rcases field_of_foldl settings none same (by simp) setting member with ⟨_, isGoal, -⟩
        cases isGoal
    | some setting =>
        cases setting with
        | artist value => exact amountsTo_artist settings value same
        | _ => exact amountsTo_single settings _ (ne_of_beq_false rfl) same
  · exact foldl_put_of_amountsTo settings target

/-! ### Files -/

section Files

variable (iso8601 : Bytes → Option Int)

/-- The queue with what the lines say appended, and `journal_file_empty`: what `journal_read` is
for, a line of any length being one `key = value`. -/
def journalReadLines (lines : List Bytes) (queue : List Record) : List Record × Bool :=
  let reading := lines.foldl (journalReadLine iso8601)
    { queue := queue, record := recordClear, journalFileEmpty := true }
  let reading := journalCommitRecord reading
  (reading.queue, reading.journalFileEmpty)

/-- The file is read line by line: whatever was read before a line, the line is one
`key = value`; the records are those of the lines; and records that were written come back. -/
structure ReadsLines (file : Bytes) : Prop where
  lines : ∀ line ∈ file.splitOn newline, ∀ reading,
    readBuffers (journalReadLine iso8601) 1024 reading line = journalReadLine iso8601 reading line
  whole : ∀ queue, journalRead iso8601 (some file) queue =
    journalReadLines iso8601 (file.splitOn newline) queue
  written : ∀ records : List Record, (∀ record ∈ records, record.Plain) →
    journalText records = .ok file →
    (journalRead iso8601 (some file) []).1.map (fun record => (record.artist, record.track)) =
      records.map fun record => (record.artist.map strip, record.track.map strip)

theorem readBuffers_iff (line : Bytes) :
    (∀ reading, readBuffers (journalReadLine iso8601) 1024 reading line =
      journalReadLine iso8601 reading line) ↔
      AmountsTo (pieces iso8601 line) (setting iso8601 line) := by
  rw [← foldl_put_iff]
  apply forall_congr'
  intro reading
  rw [readBuffers_pieces, journalReadLine_eq]

/-- A line that fits the buffer has one piece. -/
theorem amountsTo_of_short (line : Bytes) (plain : newline ∉ line) (fits : line.length ≤ 1023) :
    AmountsTo (pieces iso8601 line) (setting iso8601 line) := by
  rw [← readBuffers_iff]
  intro reading
  exact (journalReadLine_ignores iso8601).readBuffers_short 1024 reading line plain (by omega)

theorem journalReadLines_written (records : List Record) (plain : ∀ record ∈ records, record.Plain) :
    (journalReadLines iso8601 (queueLines records ++ [[]]) []).1 =
      records.map (Record.readBack iso8601) := by
  have blank (reading : JournalReading) : journalReadLine iso8601 reading [] = reading := rfl
  simp only [journalReadLines, List.foldl_concat, blank]
  rw [commit_foldl_queueLines iso8601 records plain]
  rfl

/-- A file is read line by line if and only if the pieces of each line, as the buffer cuts it, come
to what the line says. -/
theorem readsLines_iff (file : Bytes) :
    ReadsLines iso8601 file ↔
      ∀ line ∈ file.splitOn newline, AmountsTo (pieces iso8601 line) (setting iso8601 line) := by
  constructor
  · intro reads line member
    exact (readBuffers_iff iso8601 line).mp (reads.lines line member)
  · intro amounts
    have lines : ∀ line ∈ file.splitOn newline, ∀ reading,
        readBuffers (journalReadLine iso8601) 1024 reading line =
          journalReadLine iso8601 reading line := by
      intro line member
      exact (readBuffers_iff iso8601 line).mpr (amounts line member)
    have whole (queue : List Record) : journalRead iso8601 (some file) queue =
        journalReadLines iso8601 (file.splitOn newline) queue := by
      rw [journalRead, journalReadLines, (journalReadLine_ignores iso8601).foldl_file]
      rw [List.foldl_ext _ _ _ fun reading line member => lines line member reading]
    refine ⟨lines, whole, ?_⟩
    intro records plain written
    rw [journalText_sent records plain] at written
    have split : file.splitOn newline = queueLines records ++ [[]] := by
      rw [← Except.ok.inj written]
      exact splitOn_sent_plain _ (queueLines_oneLine records plain)
    rw [whole, split, journalReadLines_written iso8601 records plain, List.map_map]
    rfl

end Files

/-! ### A value that holds a key -/

def longArtist : Record :=
  { artist := some (List.replicate 1019 120 ++ lit "a = B"), track := some (lit "T"), album := none
    number := none, mbid := none, time := none, length := 0, source := some (lit "P") }

theorem longArtist_plain : longArtist.Plain := by
  refine ⟨rfl, ?_, lit "P", rfl, by decide, by decide⟩
  intro value member
  exact (show ∀ text ∈ List.reduceOption [longArtist.artist, longArtist.track, none, none, none, none],
    (0 : UInt8) ∉ text ∧ newline ∉ text by decide +kernel) value
      (List.mem_filterMap.mpr ⟨_, member, rfl⟩)

/-- The 1024th byte of its line begins another artist, which is the one that comes back. -/
theorem long_artist_cut :
    ∃ text, journalText [longArtist] = .ok text ∧
      (journalRead (fun _ => none) (some text) []).1.map (·.artist) = [some (lit "B")] ∧
      ¬ ReadsLines (fun _ => none) text := by
  have plain : ∀ record ∈ [longArtist], record.Plain := by simpa using longArtist_plain
  have cut : (journalRead (fun _ => none) (some (sent (queueLines [longArtist]))) []).1.map
      (·.artist) = [some (lit "B")] := by
    decide +kernel
  refine ⟨sent (queueLines [longArtist]), journalText_sent _ plain, cut, ?_⟩
  intro reads
  have written := reads.written [longArtist] plain (journalText_sent _ plain)
  have artists := congrArg (List.map Prod.fst) written
  rw [List.map_map, List.map_map] at artists
  have different : [some (lit "B")] ≠ [longArtist.artist.map strip] := by decide +kernel
  exact different (cut.symm.trans artists)

end Mpdcron.AudioScrobbler
