import Mpdcron.Eugene.Quote
import Mpdcron.Stats.PlayCounts

/-! What `name=... and artist=...` of the current album finds in the table of the server. -/

namespace Mpdcron.EugeneUtils

open CString Mpdcron.Stats SqlText

/-- The texts of an album row. -/
def albumColumns (row : Keyed.Row Bytes AlbumData) (column : Bytes) : Option Bytes :=
  if column = lit "name" then some row.key
  else if column = lit "artist" then row.data.artist
  else if column = lit "tags" then some row.data.counters.tags
  else none

theorem byAlbum_matches (album artist : Bytes) (row : Keyed.Row Bytes AlbumData) :
    (SongExpr.byAlbum album artist).Matches (albumColumns row) ↔
      row.key = album ∧ row.data.artist = some artist := by
  have differ : lit "artist" ≠ lit "name" := by decide
  simp [SongExpr.Matches, albumColumns, differ]

/-- In every statement of the server the expression finds one row, which counts so many plays. -/
def FindsAlbum (db : Database) (album artist : Bytes) (count : Nat) : Prop :=
  ∃ row ∈ (db .album).rows, row.data.counters.playCount = count ∧
    ∀ head, IsServerHead head → ∀ other ∈ (db .album).rows,
      Touches (statement head (SongExpr.byAlbum album artist).text) (albumColumns other) ↔
        other = row

/-- The counted plays of songs with these tags. -/
def albumPlays (calls : List ProcessCall) (album artist : Bytes) : Nat :=
  calls.countP fun call =>
    call.increment ∧ call.song.album = some album ∧ call.song.artist = some artist

/-- The accepted calls with an album of this name. -/
def albumCalls (calls : List ProcessCall) (album : Bytes) : List ProcessCall :=
  calls.filter fun call => call.keyOf .album = some album

/-- The last song of an album of this name is by the artist, and so is every counted one. -/
def OneArtist (calls : List ProcessCall) (album artist : Bytes) : Prop :=
  (∃ call, (albumCalls calls album).getLast? = some call ∧ call.song.artist = some artist) ∧
    ∀ call ∈ albumCalls calls album, call.increment → call.song.artist = some artist

instance (calls : List ProcessCall) (album artist : Bytes) :
    Decidable (OneArtist calls album artist) :=
  inferInstanceAs (Decidable (_ ∧ _))

/-- Whether it inserts the row or updates it, an upsert writes the artist of its song. -/
theorem apply_artist (call : ProcessCall) (op : Keyed.Upsert Bytes AlbumData)
    (isOp : call.upsertOf .album = some op) (data : Option AlbumData) :
    (Keyed.Upsert.apply data op).map AlbumData.artist = some call.song.artist := by
  rcases call.upsertOf_spec .album op isOp with ⟨tags, key, _, rfl⟩
  cases data <;> rfl

/-- The artist of an album row is that of the last song. -/
theorem artist_upsertsOf (calls : List ProcessCall) (album : Bytes) :
    (((upsertsOf calls .album).filter fun op => op.key = album).foldl Keyed.Upsert.apply none).map
        AlbumData.artist
      = (albumCalls calls album).getLast?.map fun call => call.song.artist := by
  induction calls using List.reverseRecOn with
  | nil => rfl
  | append_singleton calls call ih =>
      have keyed := call.upsertOf_key .album
      have named : albumCalls (calls ++ [call]) album
          = albumCalls calls album ++ albumCalls [call] album := List.filter_append ..
      have ops : upsertsOf (calls ++ [call]) .album
          = upsertsOf calls .album ++ upsertsOf [call] .album := List.filterMap_append
      rw [named, ops, List.filter_append, List.foldl_append]
      cases isOp : call.upsertOf .album with
      | none =>
          rw [isOp] at keyed
          have unnamed : albumCalls [call] album = [] := by simp [albumCalls, ← keyed]
          have noOp : upsertsOf [call] .album = [] := by simp [upsertsOf, isOp]
          rw [unnamed, noOp, List.append_nil]
          exact ih
      | some op =>
          rw [isOp] at keyed
          have oneOp : upsertsOf [call] .album = [op] := by simp [upsertsOf, isOp]
          rw [oneOp]
          by_cases mine : op.key = album
          · have one : albumCalls [call] album = [call] := by simp [albumCalls, ← keyed, mine]
            rw [one, List.getLast?_concat, List.filter_cons_of_pos (by simpa using mine)]
            exact apply_artist call op isOp _
          · have unnamed : albumCalls [call] album = [] := by simp [albumCalls, ← keyed, mine]
            rw [unnamed, List.append_nil, List.filter_cons_of_neg (by simpa using mine)]
            exact ih

/-- A song with both tags is accepted, whatever else it has. -/
theorem accepted_album (call : ProcessCall) (album artist : Bytes)
    (isAlbum : call.song.album = some album) (isArtist : call.song.artist = some artist) :
    call.keyOf .album = some album := by
  simp [ProcessCall.keyOf, Player.songCheckTags, isAlbum, isArtist]

theorem keyOf_album (call : ProcessCall) (album : Bytes)
    (keyed : call.keyOf .album = some album) : call.song.album = some album := by
  rw [ProcessCall.keyOf, Option.bind_eq_some_iff] at keyed
  rcases keyed with ⟨tags, _, keyed⟩
  exact keyed

/-- All plays of the name are plays of the artist where every counted call is by the artist. -/
theorem plays_eq_iff (calls : List ProcessCall) (album artist : Bytes) :
    plays calls .album album = albumPlays calls album artist ↔
      ∀ call ∈ albumCalls calls album, call.increment → call.song.artist = some artist := by
  have all : plays calls .album album
      = ((albumCalls calls album).filter fun call => call.increment).length := by
    rw [plays, List.countP_eq_length_filter, albumCalls, List.filter_filter]
    simp only [Bool.decide_and, Bool.decide_eq_true]
  have own : albumPlays calls album artist
      = ((albumCalls calls album).filter fun call => call.increment).countP
          fun call => call.song.artist = some artist := by
    rw [albumCalls, List.filter_filter, List.countP_filter]
    apply List.countP_congr
    intro call _
    simp only [decide_eq_true_eq, Bool.and_eq_true]
    constructor
    · rintro ⟨counted, isAlbum, isArtist⟩
      exact ⟨isArtist, counted, accepted_album call album artist isAlbum isArtist⟩
    · rintro ⟨isArtist, counted, keyed⟩
      exact ⟨counted, keyOf_album call album keyed, isArtist⟩
  rw [all, own, eq_comm, List.countP_eq_length]
  simp [List.mem_filter]

/-- The row of an album name after the calls. -/
theorem album_row (calls : List ProcessCall) (album : Bytes) (call : ProcessCall)
    (last : (albumCalls calls album).getLast? = some call) :
    ∃ row ∈ (Database.empty.upsertAll calls .album).rows, row.key = album ∧
      row.data.artist = call.song.artist ∧
      row.data.counters.playCount = plays calls .album album := by
  have counters := counters_fromEmpty calls .album album
  have artist := artist_upsertsOf calls album
  have member := List.mem_of_getLast? last
  rw [albumCalls, List.mem_filter, decide_eq_true_eq] at member
  rw [if_pos ⟨call, member⟩, Option.map_eq_some_iff] at counters
  rcases counters with ⟨data, found, counters⟩
  rcases Keyed.Table.get_eq_some.mp found with ⟨row, inRows, keyed, rfl⟩
  rw [Database.upsertAll, Keyed.Table.get_upsertAll] at found
  have written : some row.data.artist = some call.song.artist := by
    rw [last] at artist
    exact (congrArg (Option.map AlbumData.artist) found).symm.trans artist
  refine ⟨row, inRows, keyed, Option.some.inj written, ?_⟩
  have same : row.data.counters = noCounters.plus (plays calls .album album) := counters
  rw [same]
  simp [Counters.plus, noCounters, freshCounters, incrementBy]

theorem findsAlbum_iff (calls : List ProcessCall) (album artist : Bytes)
    (played : ∃ call ∈ calls, call.song.album = some album ∧ call.song.artist = some artist) :
    FindsAlbum (Database.empty.upsertAll calls) album artist (albumPlays calls album artist) ↔
      OneArtist calls album artist := by
  rcases played with ⟨first, member, isAlbum, isArtist⟩
  have nonempty : albumCalls calls album ≠ [] :=
    List.ne_nil_of_mem (List.mem_filter.mpr
      ⟨member, decide_eq_true (accepted_album first album artist isAlbum isArtist)⟩)
  have last := List.getLast?_eq_some_getLast nonempty
  rcases album_row calls album _ last with ⟨row, inRows, keyed, written, counted⟩
  have touches (head : Bytes) (server : IsServerHead head) (other : Keyed.Row Bytes AlbumData) :
      Touches (statement head (SongExpr.byAlbum album artist).text) (albumColumns other) ↔
        other.key = album ∧ other.data.artist = some artist :=
    (SongExpr.touches_iff _ head server.isHead _).trans (byAlbum_matches album artist other)
  constructor
  · rintro ⟨found, foundIn, plays, unique⟩
    have head := IsServerHead.select .list .album
    rcases (touches _ head found).mp ((unique _ head found foundIn).mpr rfl) with ⟨name, ofArtist⟩
    obtain rfl : found = row := Keyed.Table.eq_of_key _ foundIn inRows (name.trans keyed.symm)
    refine ⟨⟨_, last, written.symm.trans ofArtist⟩, (plays_eq_iff calls album artist).mp ?_⟩
    exact Int.ofNat_inj.mp (counted.symm.trans plays)
  · rintro ⟨⟨call, isLast, ofArtist⟩, own⟩
    have same := Option.some.inj (last.symm.trans isLast)
    refine ⟨row, inRows, counted.trans (congrArg _ ((plays_eq_iff calls album artist).mpr own)), ?_⟩
    intro head server other otherIn
    rw [touches head server other]
    constructor
    · rintro ⟨name, -⟩
      exact Keyed.Table.eq_of_key _ otherIn inRows (name.trans keyed.symm)
    · rintro rfl
      exact ⟨keyed, written.trans (same ▸ ofArtist)⟩

/-- Eugene and the server mean the same album by the tags of a song as long as the name belongs to
one artist: to the one of the last song and of every counted one. -/
theorem album_identity_iff (calls : List ProcessCall) (album artist : Bytes)
    (played : ∃ call ∈ calls, call.song.album = some album ∧ call.song.artist = some artist) :
    ∃ db : Database, (dbProcesses calls).run dbExec .empty = (some (), db) ∧
      (FindsAlbum db album artist (albumPlays calls album artist) ↔ OneArtist calls album artist) :=
  ⟨_, run_dbProcesses calls _, findsAlbum_iff calls album artist played⟩

/-- One play of a song of an album. -/
def albumCall (uri album artist : Bytes) : ProcessCall where
  song := { plainSong uri artist with album := some album }
  increment := true
  percentPlayed := -1
  now := 0

theorem album_identity_iff_once :
    ∃ db : Database,
      (dbProcesses [albumCall (lit "a.ogg") (lit "Live") (lit "R")]).run dbExec .empty
        = (some (), db) ∧
      (FindsAlbum db (lit "Live") (lit "R")
          (albumPlays [albumCall (lit "a.ogg") (lit "Live") (lit "R")] (lit "Live") (lit "R")) ↔
        OneArtist [albumCall (lit "a.ogg") (lit "Live") (lit "R")] (lit "Live") (lit "R")) :=
  album_identity_iff _ (lit "Live") (lit "R") ⟨_, List.mem_cons_self, rfl, rfl⟩

def twoArtists : List ProcessCall :=
  [albumCall (lit "a.ogg") (lit "Live") (lit "R"), albumCall (lit "b.ogg") (lit "Live") (lit "S")]

/-- Two artists with an album of one name: the expression finds no album of the first, and that of
the second has a play too many. -/
theorem album_of_two_artists :
    ∃ db : Database, (dbProcesses twoArtists).run dbExec .empty = (some (), db) ∧
      ¬FindsAlbum db (lit "Live") (lit "R") (albumPlays twoArtists (lit "Live") (lit "R")) ∧
      ¬FindsAlbum db (lit "Live") (lit "S") (albumPlays twoArtists (lit "Live") (lit "S")) := by
  have first := findsAlbum_iff twoArtists (lit "Live") (lit "R") ⟨_, List.mem_cons_self, rfl, rfl⟩
  have second := findsAlbum_iff twoArtists (lit "Live") (lit "S")
    ⟨_, List.mem_cons_of_mem _ List.mem_cons_self, rfl, rfl⟩
  exact ⟨_, run_dbProcesses twoArtists _, mt first.mp (by decide), mt second.mp (by decide)⟩

end Mpdcron.EugeneUtils
