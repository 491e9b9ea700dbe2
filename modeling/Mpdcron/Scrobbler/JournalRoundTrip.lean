import Mpdcron.Lib.Decimal
import Mpdcron.Lib.Delimited
import Mpdcron.Lib.Lines
import Mpdcron.Scrobbler.Journal

/-! What `journal_read` makes of a file that `journal_write` wrote. -/

namespace Mpdcron.AudioScrobbler

open CString

/-! ### What is written -/

def fieldLine (field : UInt8) (value : Bytes) : Bytes := field :: (lit " = " ++ value)

def stringLines (field : UInt8) (value : Option Bytes) : List Bytes :=
  (value.map (fieldLine field)).toList

/-- The lines of a record, the empty one that closes it included. -/
def Record.lines (record : Record) (source : Bytes) : List Bytes :=
  stringLines 97 record.artist ++ stringLines 116 record.track ++ stringLines 98 record.album
    ++ stringLines 110 record.number ++ stringLines 109 record.mbid ++ stringLines 105 record.time
    ++ [fieldLine 108 (decimal record.length), fieldLine 111 source, []]

theorem journalWriteString_sent (field : UInt8) (value : Option Bytes) :
    journalWriteString field value = sent (stringLines field value) := by
  cases value with
  | none => rfl
  | some value =>
      change [field] ++ lit " = " ++ value ++ lit "\n" = sent [fieldLine field value]
      rw [sent_cons, sent_nil, fieldLine, List.cons_append, List.append_assoc]
      rfl

theorem journalWriteRecord_sent (record : Record) (source : Bytes)
    (given : record.source = some source) :
    journalWriteRecord record = .ok (sent (record.lines source)) := by
  have closing : sent [fieldLine 108 (decimal record.length), fieldLine 111 source, []] =
      lit "l = " ++ decimal record.length ++ lit "\no = " ++ source ++ lit "\n\n" := by
    simp [sent, fieldLine, lit, newline]
  simp only [journalWriteRecord, given, Record.lines, sent_append, closing,
    journalWriteString_sent, List.append_assoc]

/-- A record that the journal takes: its strings are lines, its time is a number, which has no
white space, its length is an `int`, and each line of its text fits the buffer of
`journal_read`. -/
structure Record.Writable (record : Record) : Prop where
  isDefined : record.isDefined
  strings : ∀ value, some value ∈
    [record.artist, record.track, record.album, record.number, record.mbid, record.time] →
    (0 : UInt8) ∉ value ∧ newline ∉ value
  time : ∀ value, record.time = some value → ∀ ch ∈ value, isSpace ch = false
  length : intMin ≤ record.length ∧ record.length ≤ intMax
  source : record.source = some (lit "P") ∨ record.source = some (lit "R")
  fits : ∀ text, journalWriteRecord record = .ok text →
    ∀ line ∈ text.splitOn newline, line.length ≤ 1023

/-- The record that comes back: white space around the free texts is lost. -/
def Record.stripped (record : Record) : Record :=
  { record with
    artist := record.artist.map strip, track := record.track.map strip
    album := record.album.map strip, number := record.number.map strip
    mbid := record.mbid.map strip }

/-- A record whose strings are lines, of any length. -/
structure Record.Plain (record : Record) : Prop where
  isDefined : record.isDefined
  strings : ∀ value, some value ∈
    [record.artist, record.track, record.album, record.number, record.mbid, record.time] →
    (0 : UInt8) ∉ value ∧ newline ∉ value
  source : ∃ source, record.source = some source ∧ (0 : UInt8) ∉ source ∧ newline ∉ source

theorem Record.Writable.plain {record : Record} (writable : record.Writable) : record.Plain := by
  refine ⟨writable.isDefined, writable.strings, ?_⟩
  rcases writable.source with played | radio
  · exact ⟨lit "P", played, by decide, by decide⟩
  · exact ⟨lit "R", radio, by decide, by decide⟩

/-! ### What is read -/

variable (iso8601 : Bytes → Option Int)

/-- The source that its line is read as. -/
def readSource (source : Bytes) : Bytes :=
  if (strip source).head? = some 82 then lit "R" else lit "P"

/-- The record that comes back, whatever its time, its length and its source. -/
def Record.readBack (record : Record) : Record :=
  { record.stripped with
    time := (record.time.map strip).map (parseTimestamp iso8601)
    length := atoi (decimal record.length)
    source := record.source.map readSource }

/-- One turn of the loop at a line with a key. -/
theorem journalReadLine_key (reading : JournalReading) (line name value : Bytes)
    (cut : chug (upToNul line) = name ++ 61 :: value) (given : name ≠ [])
    (notComment : name.head? ≠ some 35) (noEquals : (61 : UInt8) ∉ name) :
    journalReadLine iso8601 reading line =
      journalReadPair iso8601 (chomp name) (strip value) reading := by
  have front : (name ++ 61 :: value).takeWhile (· ≠ 61) = name :=
    Delimited.takeWhile_front 61 name value noEquals
  have back : (name ++ 61 :: value).drop (name.length + 1) = value := by
    rw [← List.drop_drop, List.drop_left, List.drop_one, List.tail_cons]
  have first : (name ++ 61 :: value).head? = name.head? := List.head?_append_of_ne_nil name given
  have notEquals : name.head? ≠ some 61 := fun same => noEquals (List.mem_of_mem_head? same)
  rw [journalReadLine, cut]
  dsimp only
  rw [front, back, first, if_neg (by simp [notComment]), if_neg (by simp [notEquals])]

/-- A line without a key. -/
def Keyless (key : Bytes) : Prop :=
  key = [] ∨ key.head? = some 35 ∨ (61 : UInt8) ∉ key ∨ key.head? = some 61

theorem journalReadLine_keyless (reading : JournalReading) (line : Bytes)
    (keyless : Keyless (chug (upToNul line))) :
    journalReadLine iso8601 reading line = reading := by
  rw [journalReadLine]
  dsimp only
  rcases keyless with blank | comment | noEquals | nameless
  · rw [if_pos (Or.inl blank)]
  · rw [if_pos (Or.inr comment)]
  · rw [if_pos (Or.inl noEquals), ite_self]
  · rw [if_pos (Or.inr nameless), ite_self]

/-- Any other line has a key. -/
theorem split_of_not_keyless (key : Bytes) (keyed : ¬ Keyless key) :
    ∃ name value, key = name ++ 61 :: value ∧ name ≠ [] ∧ name.head? ≠ some 35 ∧
      (61 : UInt8) ∉ name := by
  simp only [Keyless, not_or, not_not] at keyed
  rcases keyed with ⟨_, notComment, hasEquals, named⟩
  rcases List.eq_append_cons_of_mem hasEquals with ⟨name, value, rfl, noEquals⟩
  have given : name ≠ [] := by
    rintro rfl
    exact named rfl
  rw [List.head?_append_of_ne_nil name given] at notComment
  exact ⟨name, value, rfl, given, notComment, noEquals⟩

theorem upToNul_concat (line : Bytes) (ch : UInt8) :
    upToNul (line ++ [ch]) = upToNul line ∨ upToNul (line ++ [ch]) = upToNul line ++ upToNul [ch] := by
  rw [upToNul, List.takeWhile_append]
  split
  · rename_i whole
    right
    rw [upToNul, (List.takeWhile_prefix _).eq_of_length whole]
    rfl
  · exact Or.inl rfl

theorem journalReadLine_newline (reading : JournalReading) (line : Bytes) :
    journalReadLine iso8601 reading (line ++ [newline]) = journalReadLine iso8601 reading line := by
  have space : isSpace newline := by decide
  rcases upToNul_concat line newline with same | longer
  · rw [journalReadLine, journalReadLine, same]
  · have cut : chug (upToNul (line ++ [newline])) =
        if chug (upToNul line) = [] then [] else chug (upToNul line) ++ [newline] := by
      rw [longer]
      exact chug_concat_space newline space (upToNul line)
    by_cases keyless : Keyless (chug (upToNul line))
    · have still : Keyless (chug (upToNul (line ++ [newline]))) := by
        rw [cut]
        by_cases blank : chug (upToNul line) = []
        · rw [if_pos blank]
          exact Or.inl rfl
        · rw [if_neg blank, Keyless, List.head?_append_of_ne_nil _ blank]
          simpa [Keyless, blank, newline] using keyless
      rw [journalReadLine_keyless iso8601 reading _ still,
        journalReadLine_keyless iso8601 reading line keyless]
    · rcases split_of_not_keyless _ keyless with
        ⟨name, value, split, given, notComment, noEquals⟩
      have longSplit : chug (upToNul (line ++ [newline])) = name ++ 61 :: (value ++ [newline]) := by
        rw [cut, split, if_neg (by simp), List.append_assoc, List.cons_append]
      rw [journalReadLine_key iso8601 reading _ name _ longSplit given notComment noEquals,
        journalReadLine_key iso8601 reading _ name _ split given notComment noEquals,
        strip_concat_space newline space]

theorem journalReadLine_ignores : IgnoresNewline (journalReadLine iso8601) where
  line := journalReadLine_newline iso8601
  alone := fun _ => rfl

/-! ### A record -/

/-- A byte that can name a field. -/
def NamesField (field : UInt8) : Prop :=
  field ≠ 0 ∧ isSpace field = false ∧ field ≠ 35 ∧ field ≠ 61

instance (field : UInt8) : Decidable (NamesField field) := inferInstanceAs (Decidable (_ ∧ _))

theorem journalReadLine_field (reading : JournalReading) (field : UInt8) (value : Bytes)
    (names : NamesField field) (noNul : (0 : UInt8) ∉ value) :
    journalReadLine iso8601 reading (fieldLine field value) =
      journalReadPair iso8601 [field] (strip value) reading := by
  rcases names with ⟨notNul, notSpace, notComment, notEquals⟩
  have cut : chug (upToNul (fieldLine field value)) = [field, 32] ++ 61 :: 32 :: value := by
    have whole : upToNul (fieldLine field value) = fieldLine field value := by
      apply upToNul_eq
      simpa [fieldLine, lit, notNul.symm] using noNul
    rw [whole, fieldLine, chug_cons_other field _ notSpace]
    rfl
  have key : chomp [field, 32] = [field] := by
    rw [← List.singleton_append, chomp_concat_space [field] 32 (by decide), chomp,
      List.rdropWhile_eq_self_iff]
    simp [notSpace]
  rw [journalReadLine_key iso8601 reading _ [field, 32] _ cut (by simp) (by simpa using notComment)
    (by simpa using notEquals.symm), key, strip_cons_space 32 value (by decide)]

/-- A field that the record does not have yet, NULL or not. -/
theorem foldl_stringLines (reading : JournalReading) (field : UInt8) (value : Option Bytes)
    (put : Option Bytes → Record) (names : NamesField field)
    (noNul : ∀ text, value = some text → (0 : UInt8) ∉ text)
    (absent : put none = reading.record)
    (puts : ∀ text, journalReadPair iso8601 [field] text reading =
      { reading with record := put (some text) }) :
    (stringLines field value).foldl (journalReadLine iso8601) reading =
      { reading with record := put (value.map strip) } := by
  cases value with
  | none =>
      rw [Option.map_none, absent]
      rfl
  | some text =>
      rw [Option.map_some, ← puts (strip text)]
      exact journalReadLine_field iso8601 reading field text names (noNul text rfl)

/-- A number has no blank in the place of an old time stamp's. -/
theorem parseTimestamp_unspaced (time : Bytes) (unspaced : ∀ ch ∈ time, isSpace ch = false) :
    parseTimestamp iso8601 time = time := by
  have notOld : importOldTimestamp iso8601 time = none := by
    rw [importOldTimestamp, if_pos]
    right
    intro blank
    have space := unspaced 32 (List.mem_of_getElem? blank)
    cases space
  rw [parseTimestamp, notOld, Option.getD_none]

@[simp] theorem journalCommitRecord_record (reading : JournalReading) :
    (journalCommitRecord reading).record = recordClear := by
  rw [journalCommitRecord]
  split <;> rfl

/-- The first line commits what was read before it. -/
theorem foldl_artistLine (reading : JournalReading) (artist : Bytes)
    (noNul : (0 : UInt8) ∉ artist) :
    (stringLines 97 (some artist)).foldl (journalReadLine iso8601) reading =
      { journalCommitRecord reading with
        record := { recordClear with artist := some (strip artist) } } := by
  change journalReadLine iso8601 reading (fieldLine 97 artist) = _
  rw [journalReadLine_field iso8601 reading 97 artist (by decide) noNul, journalReadPair,
    if_pos (by decide)]
  dsimp only
  rw [journalCommitRecord_record]

/-- The last lines; the empty one is passed over. -/
theorem foldl_closingLines (reading : JournalReading) (seconds : Int) (source : Bytes)
    (noNul : (0 : UInt8) ∉ source) (clear : reading.record.source = some (lit "P")) :
    [fieldLine 108 (decimal seconds), fieldLine 111 source, []].foldl (journalReadLine iso8601)
        reading =
      { reading with
        record := { reading.record with
          length := atoi (decimal seconds), source := some (readSource source) } } := by
  have lengthLine : journalReadLine iso8601 reading (fieldLine 108 (decimal seconds)) =
      { reading with record := { reading.record with length := atoi (decimal seconds) } } := by
    rw [journalReadLine_field iso8601 reading 108 _ (by decide) (decimal_noNul seconds), strip_decimal]
    rfl
  have sourceLine (reading : JournalReading) (clear : reading.record.source = some (lit "P")) :
      journalReadLine iso8601 reading (fieldLine 111 source) =
        { reading with record := { reading.record with source := some (readSource source) } } := by
    rw [journalReadLine_field iso8601 reading 111 _ (by decide) noNul, readSource]
    by_cases radio : (strip source).head? = some 82
    · rw [if_pos radio]
      exact if_pos ⟨rfl, radio⟩
    · rw [if_neg radio, ← clear]
      exact if_neg (fun same => radio same.2)
  have lastLine := sourceLine
    { reading with record := { reading.record with length := atoi (decimal seconds) } } clear
  rw [List.foldl_cons, lengthLine, List.foldl_cons, lastLine]
  rfl

/-- The lines of a record are read as that record, whatever was read before: what came before is
committed at its first line, and its NULL fields are those of a clear record. -/
theorem foldl_lines (record : Record) (source : Bytes) (given : record.source = some source)
    (plain : record.Plain) (reading : JournalReading) :
    (record.lines source).foldl (journalReadLine iso8601) reading =
      { journalCommitRecord reading with record := record.readBack iso8601 } := by
  rcases plain with ⟨isDefined, strings, isSource, isGiven, noNulSource, -⟩
  cases given.symm.trans isGiven
  rcases record with ⟨artist, track, album, number, mbid, time, seconds, _⟩
  simp only [Record.isDefined, Bool.and_eq_true, Option.isSome_iff_exists] at isDefined
  rcases isDefined.1 with ⟨artist, rfl⟩
  have noNul : ∀ value, value ∈ [some artist, track, album, number, mbid, time] →
      ∀ text, value = some text → (0 : UInt8) ∉ text := by
    rintro value member text rfl
    exact (strings text member).1
  rw [Record.lines, List.foldl_append, List.foldl_append, List.foldl_append, List.foldl_append,
    List.foldl_append, List.foldl_append]
  dsimp only at given ⊢
  rw [foldl_artistLine iso8601 reading artist (noNul _ (by simp) artist rfl),
    foldl_stringLines iso8601 _ 116 track
      (fun value => { recordClear with artist := some (strip artist), track := value })
      (by decide) (noNul track (by simp)) rfl (fun _ => rfl),
    foldl_stringLines iso8601 _ 98 album
      (fun value => { recordClear with
        artist := some (strip artist), track := track.map strip, album := value })
      (by decide) (noNul album (by simp)) rfl (fun _ => rfl),
    foldl_stringLines iso8601 _ 110 number
      (fun value => { recordClear with
        artist := some (strip artist), track := track.map strip, album := album.map strip
        number := value })
      (by decide) (noNul number (by simp)) rfl (fun _ => rfl),
    foldl_stringLines iso8601 _ 109 mbid
      (fun value => { recordClear with
        artist := some (strip artist), track := track.map strip, album := album.map strip
        number := number.map strip, mbid := value })
      (by decide) (noNul mbid (by simp)) rfl (fun _ => rfl),
    foldl_stringLines iso8601 _ 105 time
      (fun value => { recordClear with
        artist := some (strip artist), track := track.map strip, album := album.map strip
        number := number.map strip, mbid := mbid.map strip
        time := value.map (parseTimestamp iso8601) })
      (by decide) (noNul time (by simp)) rfl (fun _ => rfl),
    foldl_closingLines iso8601 _ seconds source noNulSource rfl, given]
  rfl

/-- A number as the time, a length that is an `int` and a source that the journal knows come back
as they were. -/
theorem Record.Writable.readBack {record : Record} (writable : record.Writable) :
    record.readBack iso8601 = record.stripped := by
  have time : (record.time.map strip).map (parseTimestamp iso8601) = record.time := by
    cases given : record.time with
    | none => rfl
    | some time =>
        have unspaced := writable.time time given
        rw [Option.map_some, Option.map_some, strip_unspaced time unspaced,
          parseTimestamp_unspaced iso8601 time unspaced]
  have length : atoi (decimal record.length) = record.length :=
    atoi_decimal record.length writable.length.1 writable.length.2
  have source : record.source.map readSource = record.source := by
    rcases writable.source with played | radio
    · rw [played]
      rfl
    · rw [radio]
      rfl
  rw [Record.readBack, time, length, source]
  rfl

/-! ### A queue -/

def queueLines (queue : List Record) : List Bytes :=
  queue.flatMap fun record => record.lines (record.source.getD [])

theorem queueLines_cons (record : Record) (queue : List Record) :
    queueLines (record :: queue) = record.lines (record.source.getD []) ++ queueLines queue :=
  List.flatMap_cons

theorem Record.Plain.source_some {record : Record} (plain : record.Plain) :
    record.source = some (record.source.getD []) := by
  rcases plain.source with ⟨source, given, -⟩
  rw [given, Option.getD_some]

theorem journalText_sent (queue : List Record) (plain : ∀ record ∈ queue, record.Plain) :
    journalText queue = .ok (sent (queueLines queue)) := by
  induction queue with
  | nil => rfl
  | cons record queue ih =>
      rw [List.forall_mem_cons] at plain
      rw [journalText, journalWriteRecord_sent record _ plain.1.source_some, ih plain.2,
        queueLines_cons, sent_append]
      rfl

theorem fieldLine_oneLine (field : UInt8) (value : Bytes) (names : NamesField field)
    (oneLine : newline ∉ value) : newline ∉ fieldLine field value := by
  have different : newline ≠ field := by
    intro same
    rw [← same] at names
    exact absurd names (by decide)
  rw [fieldLine, List.mem_cons, List.mem_append]
  rintro (same | separator | inValue)
  · exact different same
  · exact absurd separator (by decide)
  · exact oneLine inValue

theorem stringLines_oneLine (field : UInt8) (value : Option Bytes) (names : NamesField field)
    (oneLine : ∀ text, value = some text → newline ∉ text) :
    ∀ line ∈ stringLines field value, newline ∉ line := by
  intro line member
  cases value with
  | none => cases member
  | some text =>
      rw [stringLines, Option.map_some, Option.toList_some, List.mem_singleton] at member
      rw [member]
      exact fieldLine_oneLine field text names (oneLine text rfl)

theorem Record.Plain.lines_oneLine {record : Record} (plain : record.Plain) :
    ∀ line ∈ record.lines (record.source.getD []), newline ∉ line := by
  have oneLine : ∀ value, value ∈
      [record.artist, record.track, record.album, record.number, record.mbid, record.time] →
      ∀ text, value = some text → newline ∉ text := by
    rintro value member text rfl
    exact (plain.strings text member).2
  have known : newline ∉ record.source.getD [] := by
    rcases plain.source with ⟨source, given, -, oneLine⟩
    rwa [given, Option.getD_some]
  intro line member
  simp only [Record.lines, List.mem_append, or_assoc] at member
  rcases member with artist | track | album | number | mbid | time | closing
  · exact stringLines_oneLine 97 _ (by decide) (oneLine _ (by simp)) line artist
  · exact stringLines_oneLine 116 _ (by decide) (oneLine _ (by simp)) line track
  · exact stringLines_oneLine 98 _ (by decide) (oneLine _ (by simp)) line album
  · exact stringLines_oneLine 110 _ (by decide) (oneLine _ (by simp)) line number
  · exact stringLines_oneLine 109 _ (by decide) (oneLine _ (by simp)) line mbid
  · exact stringLines_oneLine 105 _ (by decide) (oneLine _ (by simp)) line time
  · simp only [List.mem_cons, List.not_mem_nil, or_false] at closing
    rcases closing with rfl | rfl | rfl
    · exact fieldLine_oneLine 108 _ (by decide) (decimal_oneLine record.length)
    · exact fieldLine_oneLine 111 _ (by decide) known
    · exact List.not_mem_nil

theorem queueLines_oneLine (queue : List Record) (plain : ∀ record ∈ queue, record.Plain) :
    ∀ line ∈ queueLines queue, newline ∉ line := by
  intro line member
  rcases List.mem_flatMap.mp member with ⟨record, queued, inRecord⟩
  exact (plain record queued).lines_oneLine line inRecord

theorem Record.Writable.lines_fit {record : Record} (writable : record.Writable) :
    ∀ line ∈ record.lines (record.source.getD []), line.length < 1024 := by
  intro line member
  have written := journalWriteRecord_sent record _ writable.plain.source_some
  have fits := writable.fits _ written line
  rw [splitOn_sent_plain _ writable.plain.lines_oneLine] at fits
  have bound := fits (List.mem_append_left _ member)
  omega

/-- What is committed at the end of the records: those committed before them, and the records. -/
theorem commit_foldl_queueLines (queue : List Record)
    (plain : ∀ record ∈ queue, record.Plain) : ∀ reading,
    journalCommitRecord ((queueLines queue).foldl (journalReadLine iso8601) reading) =
      { queue := (journalCommitRecord reading).queue ++ queue.map (Record.readBack iso8601)
        record := recordClear
        journalFileEmpty := (journalCommitRecord reading).journalFileEmpty && queue.isEmpty } := by
  induction queue with
  | nil =>
      intro reading
      rw [← journalCommitRecord_record reading, List.map_nil, List.append_nil, List.isEmpty_nil,
        Bool.and_true]
      rfl
  | cons record queue ih =>
      intro reading
      rw [List.forall_mem_cons] at plain
      have isDefined : (record.readBack iso8601).isDefined := by
        have given := plain.1.isDefined
        simpa [Record.readBack, Record.stripped, Record.isDefined] using given
      have read := foldl_lines iso8601 record _ plain.1.source_some plain.1 reading
      have committed : journalCommitRecord
            { journalCommitRecord reading with record := record.readBack iso8601 } =
          { queue := (journalCommitRecord reading).queue ++ [record.readBack iso8601]
            record := recordClear, journalFileEmpty := false } := if_pos isDefined
      have later := ih plain.2 { journalCommitRecord reading with record := record.readBack iso8601 }
      rw [queueLines_cons, List.foldl_append, read, later, committed]
      simp

/-- What was written is read back. -/
theorem journalRead_journalWrite (journalFileEmpty : Bool) (queue : List Record)
    (file : Option Bytes) (nonempty : queue ≠ [])
    (writable : ∀ record ∈ queue, record.Writable) :
    ∃ text, journalWrite true journalFileEmpty queue file = .ok (some text) ∧
      journalRead iso8601 (some text) [] = (queue.map Record.stripped, false) := by
  have plain : ∀ record ∈ queue, record.Plain := fun record queued => (writable record queued).plain
  have fits : ∀ line ∈ queueLines queue, line.length < 1024 := by
    intro line member
    rcases List.mem_flatMap.mp member with ⟨record, queued, inRecord⟩
    exact (writable record queued).lines_fit line inRecord
  have same : queue.map (Record.readBack iso8601) = queue.map Record.stripped :=
    List.map_congr_left fun record queued => (writable record queued).readBack iso8601
  refine ⟨sent (queueLines queue), ?_, ?_⟩
  · rw [journalWrite, if_neg (by simp [nonempty]), if_pos rfl, journalText_sent queue plain]
    rfl
  · rw [journalRead,
      (journalReadLine_ignores iso8601).foldl_fgetsAll 1024 _ (queueLines_oneLine queue plain) fits,
      commit_foldl_queueLines iso8601 queue plain, same]
    have notEmpty : queue.isEmpty = false := by simpa using nonempty
    rw [notEmpty, Bool.and_false]
    rfl

theorem journalRead_journalWrite_keyLike :
    ∃ text, journalWrite true true
        [{ artist := some (lit " # a = b"), track := some (lit "\"t = x\" "), album := none
           number := none, mbid := some (lit "o = R"), time := some (lit "1234567890")
           length := -3, source := some (lit "P") },
         { artist := some (lit "="), track := some (lit ""), album := some (lit "b"), number := none
           mbid := none, time := some (lit "-1"), length := 0, source := some (lit "R") }]
        none = .ok (some text) ∧
      journalRead (fun _ => none) (some text) [] =
        ([{ artist := some (lit "# a = b"), track := some (lit "\"t = x\""), album := none
            number := none, mbid := some (lit "o = R"), time := some (lit "1234567890")
            length := -3, source := some (lit "P") },
          { artist := some (lit "="), track := some (lit ""), album := some (lit "b")
            number := none, mbid := none, time := some (lit "-1"), length := 0
            source := some (lit "R") }], false) := by
  apply journalRead_journalWrite (fun _ => none) true _ none (List.cons_ne_nil _ _)
  intro record member
  simp only [List.mem_cons, List.not_mem_nil, or_false] at member
  rcases member with rfl | rfl
  · constructor
    · rfl
    · intro value given
      exact (show ∀ text ∈ List.reduceOption [some (lit " # a = b"), some (lit "\"t = x\" "), none,
        none, some (lit "o = R"), some (lit "1234567890")], (0 : UInt8) ∉ text ∧ newline ∉ text
        by decide +kernel) value (List.mem_filterMap.mpr ⟨_, given, rfl⟩)
    · rintro value ⟨⟩
      decide +kernel
    · decide
    · exact Or.inl rfl
    · rintro text ⟨⟩
      decide +kernel
  · constructor
    · rfl
    · intro value given
      exact (show ∀ text ∈ List.reduceOption [some (lit "="), some (lit ""), some (lit "b"), none,
        none, some (lit "-1")], (0 : UInt8) ∉ text ∧ newline ∉ text
        by decide +kernel) value (List.mem_filterMap.mpr ⟨_, given, rfl⟩)
    · rintro value ⟨⟩
      decide +kernel
    · decide
    · exact Or.inr rfl
    · rintro text ⟨⟩
      decide +kernel

end Mpdcron.AudioScrobbler
