import Mpdcron.Lib.Environment
import Mpdcron.Player.Event

/-! `cron-env.c`: the variables that are exported to the hooks, and the list of those that
are cleared. -/

namespace Mpdcron.Cron

open CString
open Mpdcron.Player (MpdState toInt)

abbrev Env := Environment Bytes Bytes

structure MpdAudioFormat where
  sampleRate : UInt32
  bits : UInt8
  channels : UInt8
  deriving DecidableEq, Repr

structure MpdStatus where
  volume : Int
  repeating : Bool
  random : Bool
  single : Bool
  consume : Bool
  queueLength : UInt32
  queueVersion : UInt32
  crossfade : UInt32
  songPos : Int
  songId : Int
  elapsedTime : UInt32
  elapsedMs : UInt32
  totalTime : UInt32
  kbitRate : UInt32
  updateId : UInt32
  state : MpdState
  audioFormat : Option MpdAudioFormat
  deriving DecidableEq, Repr

inductive MpdTag where
  | artist
  | album
  | albumArtist
  | title
  | track
  | name
  | genre
  | date
  | composer
  | performer
  | comment
  | disc
  | musicbrainzArtistid
  | musicbrainzAlbumid
  | musicbrainzAlbumartistid
  | musicbrainzTrackid
  deriving DecidableEq, Repr

/-- `tag` is the first value of each tag; `none` is NULL. -/
structure MpdSong where
  uri : Bytes
  lastModified : Int
  duration : UInt32
  pos : UInt32
  id : UInt32
  tag : MpdTag → Option Bytes

structure MpdStats where
  dbUpdateTime : Int
  numberOfArtists : UInt32
  numberOfAlbums : UInt32
  numberOfSongs : UInt32
  playTime : Nat
  uptime : Nat
  dbPlayTime : Nat
  deriving DecidableEq, Repr

def envStrstate : MpdState → Bytes
  | .unknown => lit "unknown"
  | .stop => lit "stop"
  | .play => lit "play"
  | .pause => lit "pause"

/-- `%d` of a `bool` -/
def flag (value : Bool) : Bytes := decimal (if value then 1 else 0)

def audioFormatVariables (format : Option MpdAudioFormat) : List (Bytes × Bytes) :=
  match format with
  | none => [(lit "MPD_STATUS_AUDIO_FORMAT", lit "0")]
  | some format =>
      [(lit "MPD_STATUS_AUDIO_FORMAT", lit "1"),
        (lit "MPD_STATUS_AUDIO_FORMAT_SAMPLE_RATE", decimalNat format.sampleRate.toNat),
        (lit "MPD_STATUS_AUDIO_FORMAT_BITS", decimalNat format.bits.toNat),
        (lit "MPD_STATUS_AUDIO_FORMAT_CHANNELS", decimalNat format.channels.toNat)]

/-- What `env_export_status` sets, in turn. -/
def statusVariables (status : MpdStatus) : List (Bytes × Bytes) :=
  [(lit "MPD_STATUS_VOLUME", decimal status.volume),
    (lit "MPD_STATUS_REPEAT", flag status.repeating),
    (lit "MPD_STATUS_RANDOM", flag status.random),
    (lit "MPD_STATUS_SINGLE", flag status.single),
    (lit "MPD_STATUS_CONSUME", flag status.consume),
    (lit "MPD_STATUS_QUEUE_LENGTH", decimal (toInt status.queueLength)),
    (lit "MPD_STATUS_QUEUE_VERSION", decimal (toInt status.queueVersion)),
    (lit "MPD_STATUS_CROSSFADE", decimal (toInt status.crossfade)),
    (lit "MPD_STATUS_SONG_POS", decimal status.songPos),
    (lit "MPD_STATUS_SONG_ID", decimal status.songId),
    (lit "MPD_STATUS_ELAPSED_TIME", decimalNat status.elapsedTime.toNat),
    (lit "MPD_STATUS_ELAPSED_MS", decimalNat status.elapsedMs.toNat),
    (lit "MPD_STATUS_TOTAL_TIME", decimalNat status.totalTime.toNat),
    (lit "MPD_STATUS_KBIT_RATE", decimalNat status.kbitRate.toNat),
    (lit "MPD_STATUS_UPDATE_ID", decimalNat status.updateId.toNat),
    (lit "MPD_STATUS_STATE", envStrstate status.state)]
    ++ audioFormatVariables status.audioFormat

/-- The tags that are exported, in turn. -/
def tagVariables : List (MpdTag × Bytes) :=
  [(.artist, lit "MPD_SONG_TAG_ARTIST"),
    (.album, lit "MPD_SONG_TAG_ALBUM"),
    (.albumArtist, lit "MPD_SONG_TAG_ALBUM_ARTIST"),
    (.title, lit "MPD_SONG_TAG_TITLE"),
    (.track, lit "MPD_SONG_TAG_TRACK"),
    (.name, lit "MPD_SONG_TAG_NAME"),
    (.genre, lit "MPD_SONG_TAG_GENRE"),
    (.date, lit "MPD_SONG_TAG_DATE"),
    (.composer, lit "MPD_SONG_TAG_COMPOSER"),
    (.performer, lit "MPD_SONG_TAG_PERFORMER"),
    (.comment, lit "MPD_SONG_TAG_COMMENT"),
    (.disc, lit "MPD_SONG_TAG_DISC"),
    (.musicbrainzArtistid, lit "MPD_SONG_TAG_MUSICBRAINZ_ARTISTID"),
    (.musicbrainzAlbumid, lit "MPD_SONG_TAG_MUSICBRAINZ_ALBUMID"),
    (.musicbrainzAlbumartistid, lit "MPD_SONG_TAG_MUSICBRAINZ_ALBUMARTISTID"),
    (.musicbrainzTrackid, lit "MPD_SONG_TAG_MUSICBRAINZ_TRACKID")]

/-- A variable that is only set if there is a value for it. -/
def optional (name : Bytes) (value : Option Bytes) : List (Bytes × Bytes) :=
  (value.map fun value => (name, value)).toList

section Dates

-- the text of a time, where `localtime_r` does not fail
variable (strftime : Int → Option Bytes)

/-- What `env_export_song` sets, in turn. -/
def songVariables (song : MpdSong) : List (Bytes × Bytes) :=
  [(lit "MPD_SONG_URI", song.uri)]
    ++ optional (lit "MPD_SONG_LAST_MODIFIED") (strftime song.lastModified)
    ++ [(lit "MPD_SONG_DURATION", decimalNat song.duration.toNat),
      (lit "MPD_SONG_POS", decimalNat song.pos.toNat),
      (lit "MPD_SONG_ID", decimalNat song.id.toNat)]
    ++ tagVariables.flatMap fun tag => optional tag.2 (song.tag tag.1)

/-- What `env_stats` sets, in turn. -/
def statsVariables (stats : MpdStats) : List (Bytes × Bytes) :=
  optional (lit "MPD_DATABASE_UPDATE_TIME") (strftime stats.dbUpdateTime)
    ++ [(lit "MPD_DATABASE_ARTISTS", decimal (toInt stats.numberOfArtists)),
      (lit "MPD_DATABASE_ALBUMS", decimal (toInt stats.numberOfAlbums)),
      (lit "MPD_DATABASE_SONGS", decimal (toInt stats.numberOfSongs)),
      (lit "MPD_DATABASE_PLAY_TIME", decimalNat stats.playTime),
      (lit "MPD_DATABASE_UPTIME", decimalNat stats.uptime),
      (lit "MPD_DATABASE_DB_PLAY_TIME", decimalNat stats.dbPlayTime)]

def envExportStatus (status : MpdStatus) (env : Env) : Env := env.setAll (statusVariables status)

def envExportSong (song : MpdSong) (env : Env) : Env := env.setAll (songVariables strftime song)

def envStats (stats : MpdStats) (env : Env) : Env := env.setAll (statsVariables strftime stats)

def envStatus (status : MpdStatus) (env : Env) : Env := envExportStatus status env

def envStatusCurrentsong (song : Option MpdSong) (status : MpdStatus) (env : Env) : Env :=
  let env := envExportStatus status env
  match song with
  | none => env
  | some song => envExportSong strftime song env

end Dates

/-- The variables that `env_clearenv` unsets. -/
def clearedVariables : List Bytes :=
  [lit "MPD_STATUS_VOLUME", lit "MPD_STATUS_REPEAT", lit "MPD_STATUS_RENDOM",
    lit "MPD_STATUS_SINGLE", lit "MPD_STATUS_CONSUME", lit "MPD_STATUS_QUEUE_LENGTH",
    lit "MPD_STATUS_QUEUE_VERSION", lit "MPD_STATUS_CROSSFADE", lit "MPD_STATUS_SONG_POS",
    lit "MPD_STATUS_SONG_ID", lit "MPD_STATUS_ELAPSED_TIME", lit "MPD_STATUS_ELAPSED_MS",
    lit "MPD_STATUS_TOTAL_TIME", lit "MPD_STATUS_KBIT_RATE", lit "MPD_STATUS_UPDATE_ID",
    lit "MPD_STATUS_STATE", lit "MPD_STATUS_AUDIO_FORMAT",
    lit "MPD_STATUS_AUDIO_FORMAT_SAMPLE_RATE", lit "MPD_STATUS_AUDIO_FORMAT_BITS",
    lit "MPD_STATUS_AUDIO_FORMAT_CHANNELS",
    lit "MPD_SONG_URI", lit "MPD_SONG_TAG_ARTIST", lit "MPD_SONG_TAG_ALBUM",
    lit "MPD_SONG_TAG_ALBUM_ARTIST", lit "MPD_SONG_TAG_TITLE", lit "MPD_SONG_TAG_TRACK",
    lit "MPD_SONG_TAG_NAME", lit "MPD_SONG_TAG_GENRE", lit "MPD_SONG_TAG_DATE",
    lit "MPD_SONG_TAG_COMPOSER", lit "MPD_SONG_TAG_PERFORMER", lit "MPD_SONG_TAG_COMMENT",
    lit "MPD_SONG_TAG_DISC", lit "MPD_SONG_TAG_MUSICBRAINZ_ARTISTID",
    lit "MPD_SONG_TAG_MUSICBRAINZ_ALBUMID", lit "MPD_SONG_TAG_MUSICBRAINZ_ALBUMARTISTID",
    lit "MPD_SONG_TAG_MUSICBRAINZ_TRACKID", lit "MPD_SONG_LAST_MODIFIED", lit "MPD_SONG_POS",
    lit "MPD_SONG_ID",
    lit "MPD_DATABASE_UPDATE_TIME", lit "MPD_DATABASE_ARTISTS", lit "MPD_DATABASE_ALBUMS",
    lit "MPD_DATABASE_SONGS", lit "MPD_DATABASE_PLAY_TIME", lit "MPD_DATABASE_UPTIME",
    lit "MPD_DATABASE_DB_PLAY_TIME"]

def envClearenv (env : Env) : Env := env.unsetAll clearedVariables

/-! ### The names -/

def statusRandom : Bytes := lit "MPD_STATUS_RANDOM"

def songDuration : Bytes := lit "MPD_SONG_DURATION"

/-- The names `MPD_STATUS_*`, `MPD_SONG_*` and `MPD_DATABASE_*`. -/
def IsMpdVariable (name : Bytes) : Prop :=
  lit "MPD_STATUS_" <+: name ∨ lit "MPD_SONG_" <+: name ∨ lit "MPD_DATABASE_" <+: name

instance (name : Bytes) : Decidable (IsMpdVariable name) :=
  inferInstanceAs (Decidable (_ ∨ _))

abbrev names (settings : List (Bytes × Bytes)) : List Bytes := settings.map Prod.fst

theorem names_optional (name : Bytes) (value : Option Bytes) :
    names (optional name value) ⊆ [name] := by
  cases value <;> simp [optional]

/-- `env_clearenv` forgets two of the variables. -/
theorem not_cleared : statusRandom ∉ clearedVariables ∧ songDuration ∉ clearedVariables := by
  decide +kernel

theorem random_ne_duration : statusRandom ≠ songDuration := by decide

theorem statusVariables_names (status : MpdStatus) :
    statusRandom ∈ names (statusVariables status) ∧ songDuration ∉ names (statusVariables status) ∧
      names (statusVariables status) ⊆ statusRandom :: clearedVariables := by
  -- `env_clearenv` has another name in the place of the random flag
  let all : List Bytes := (clearedVariables.take 20).set 2 (lit "MPD_STATUS_RANDOM")
  have listed : names (statusVariables status) ⊆ all := by
    intro name present
    rw [names, statusVariables, List.map_append, List.mem_append] at present
    cases given : status.audioFormat with
    | none =>
        rw [given] at present
        exact List.take_subset 17 all (List.mem_append.mpr present)
    | some format =>
        rw [given] at present
        exact List.mem_append.mpr present
  have known : names (statusVariables status) ⊆ statusRandom :: clearedVariables := by
    intro name present
    rcases List.mem_or_eq_of_mem_set (listed present) with cleared | random
    · exact List.mem_cons_of_mem _ (List.mem_of_mem_take cleared)
    · rw [random]
      exact List.mem_cons_self
  refine ⟨List.mem_of_getElem? (i := 2) rfl, fun duration => ?_, known⟩
  rcases List.mem_cons.mp (known duration) with random | cleared
  · exact random_ne_duration random.symm
  · exact not_cleared.2 cleared

/-- All that `env_export_song` may set. -/
def songNames : List Bytes := songDuration :: (clearedVariables.drop 20).take 20

theorem songVariables_subset (strftime : Int → Option Bytes) (song : MpdSong) :
    names (songVariables strftime song) ⊆ songNames := by
  have dated := names_optional (lit "MPD_SONG_LAST_MODIFIED") (strftime song.lastModified)
  have tags : tagVariables.map Prod.snd ⊆ songNames := by
    have placed : tagVariables.map Prod.snd = (songNames.drop 2).take 16 := rfl
    rw [placed]
    exact List.Subset.trans (List.take_subset _ _) (List.drop_subset _ _)
  intro name present
  simp only [songVariables, List.map_append, List.mem_append] at present
  rcases present with ((uri | date) | numbers) | tag
  · rw [List.mem_singleton.mp uri]
    exact List.mem_of_getElem? (i := 1) rfl
  · rw [List.mem_singleton.mp (dated date)]
    exact List.mem_of_getElem? (i := 18) rfl
  · simp only [List.map_cons, List.map_nil, List.mem_cons, List.not_mem_nil, or_false] at numbers
    rcases numbers with rfl | rfl | rfl
    · exact List.mem_cons_self
    · exact List.mem_of_getElem? (i := 19) rfl
    · exact List.mem_of_getElem? (i := 20) rfl
  · obtain ⟨setting, inTags, rfl⟩ := List.mem_map.mp tag
    obtain ⟨tag, listed, own⟩ := List.mem_flatMap.mp inTags
    have same := names_optional tag.2 (song.tag tag.1) (List.mem_map_of_mem own)
    rw [List.mem_singleton.mp same]
    exact tags (List.mem_map_of_mem listed)

theorem songVariables_names (strftime : Int → Option Bytes) (song : MpdSong) :
    songDuration ∈ names (songVariables strftime song) ∧
      statusRandom ∉ names (songVariables strftime song) ∧
      names (songVariables strftime song) ⊆ songDuration :: clearedVariables := by
  have subset := songVariables_subset strftime song
  have cleared : (clearedVariables.drop 20).take 20 ⊆ clearedVariables :=
    List.Subset.trans (List.take_subset _ _) (List.drop_subset _ _)
  have known : names (songVariables strftime song) ⊆ songDuration :: clearedVariables :=
    fun name present => List.cons_subset_cons _ cleared (subset present)
  refine ⟨?_, fun random => ?_, known⟩
  · simp [songVariables, songDuration]
  · rcases List.mem_cons.mp (known random) with duration | inList
    · exact random_ne_duration duration
    · exact not_cleared.1 inList

theorem statsVariables_names (strftime : Int → Option Bytes) (stats : MpdStats) :
    statusRandom ∉ names (statsVariables strftime stats) ∧
      songDuration ∉ names (statsVariables strftime stats) ∧
      names (statsVariables strftime stats) ⊆ clearedVariables := by
  have dated := names_optional (lit "MPD_DATABASE_UPDATE_TIME") (strftime stats.dbUpdateTime)
  have subset : names (statsVariables strftime stats) ⊆ clearedVariables.drop 40 := by
    intro name present
    rw [statsVariables, names, List.map_append, List.mem_append] at present
    rcases present with date | numbers
    · rw [List.mem_singleton.mp (dated date)]
      exact List.mem_cons_self
    · exact List.mem_cons_of_mem _ numbers
  have known : names (statsVariables strftime stats) ⊆ clearedVariables :=
    fun name present => List.drop_subset _ _ (subset present)
  exact ⟨fun random => not_cleared.1 (known random),
    fun duration => not_cleared.2 (known duration), known⟩

end Mpdcron.Cron
