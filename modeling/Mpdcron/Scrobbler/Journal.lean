import Mpdcron.Scrobbler.Submit

/-! `scrobbler-journal.c`. A file is its bytes; the static flag `journal_file_empty` is
passed in and out. -/

namespace Mpdcron.AudioScrobbler

open CString

/-! ### Writing -/

def journalWriteString (field : UInt8) (value : Option Bytes) : Bytes :=
  match value with
  | none => []
  | some value => [field] ++ lit " = " ++ value ++ lit "\n"

def journalWriteRecord (record : Record) : Except Assertion Bytes :=
  match record.source with
  | none => .error .recordSource
  | some source => .ok
      (journalWriteString 97 record.artist ++ journalWriteString 116 record.track
        ++ journalWriteString 98 record.album ++ journalWriteString 110 record.number
        ++ journalWriteString 109 record.mbid ++ journalWriteString 105 record.time
        ++ lit "l = " ++ decimal record.length ++ lit "\no = " ++ source ++ lit "\n\n")

/-- `g_queue_foreach(queue, journal_write_record, handle)` -/
def journalText : List Record → Except Assertion Bytes
  | [] => .ok []
  | record :: queue => do
      let text ← journalWriteRecord record
      let rest ← journalText queue
      return text ++ rest

/-- The file at the path afterwards, `fopen` succeeding if `opened`. -/
def journalWrite (opened journalFileEmpty : Bool) (queue : List Record)
    (file : Option Bytes) : Except Assertion (Option Bytes) :=
  if queue = [] ∧ journalFileEmpty then .ok file
  else if opened then (journalText queue).map some
  else .ok file

/-! ### Reading -/

/-- What the loop of `journal_read` carries along. -/
structure JournalReading where
  queue : List Record
  record : Record
  journalFileEmpty : Bool
  deriving DecidableEq, Repr

def journalCommitRecord (reading : JournalReading) : JournalReading :=
  if reading.record.isDefined then
    { queue := reading.queue ++ [reading.record], record := recordClear
      journalFileEmpty := false }
  else { reading with record := recordClear }

section

variable (iso8601 : Bytes → Option Int)

/-- `iso8601` is `g_time_val_from_iso8601`. -/
def importOldTimestamp (p : Bytes) : Option Bytes :=
  if p.length ≤ 10 ∨ p[10]? ≠ some 32 then none
  else (iso8601 (p.set 10 84)).map decimal

def parseTimestamp (p : Bytes) : Bytes := (importOldTimestamp iso8601 p).getD p

def journalReadPair (key value : Bytes) (reading : JournalReading) : JournalReading :=
  let record := reading.record
  if key = lit "a" then
    let reading := journalCommitRecord reading
    { reading with record := { reading.record with artist := some value } }
  else if key = lit "t" then { reading with record := { record with track := some value } }
  else if key = lit "b" then { reading with record := { record with album := some value } }
  else if key = lit "n" then { reading with record := { record with number := some value } }
  else if key = lit "m" then { reading with record := { record with mbid := some value } }
  else if key = lit "i" then
    { reading with record := { record with time := some (parseTimestamp iso8601 value) } }
  else if key = lit "l" then { reading with record := { record with length := atoi value } }
  else if key = lit "o" ∧ value.head? = some 82 then
    { reading with record := { record with source := some (lit "R") } }
  else reading

/-- One turn of the loop, for the buffer that `fgets` filled. -/
def journalReadLine (reading : JournalReading) (line : Bytes) : JournalReading :=
  let key := chug (upToNul line)
  if key = [] ∨ key.head? = some 35 then reading
  else if 61 ∉ key ∨ key.head? = some 61 then reading
  else
    let value := key.drop ((key.takeWhile (· ≠ 61)).length + 1)
    journalReadPair iso8601 (chomp (key.takeWhile (· ≠ 61))) (strip value) reading

/-- The queue with the records of the file appended, and `journal_file_empty`. -/
def journalRead (file : Option Bytes) (queue : List Record) : List Record × Bool :=
  match file with
  | none => (queue, true)
  | some text =>
      let reading := (fgetsAll 1024 [] text).foldl (journalReadLine iso8601)
        { queue := queue, record := recordClear, journalFileEmpty := true }
      let reading := journalCommitRecord reading
      (reading.queue, reading.journalFileEmpty)

end

end Mpdcron.AudioScrobbler
