import Mpdcron.Eugene.Connection
import Mpdcron.Lib.Delimited
import Mpdcron.Stats.Framing

/-! What the listings of the server print, and what the parse functions of the client make of
it. -/

namespace Mpdcron.Eugene

open CString
open Mpdcron.Stats

/-- A key that `mpdcron_parser_feed` finds again before the colon. -/
def PairKey (key : Bytes) : Prop := IsKey key ∧ colon ∉ key ∧ (0 : UInt8) ∉ key

instance (key : Bytes) : Decidable (PairKey key) := instDecidableAnd

theorem strchr_append (front rest : Bytes) (ch : UInt8) (absent : ch ∉ front) :
    strchr (front ++ ch :: rest) ch = some (ch :: rest) := by
  rw [strchr, Delimited.dropWhile_front ch front rest absent]

theorem feed_pair (key value : Bytes) (pairKey : PairKey key) (oneLine : newline ∉ value) :
    mpdcronParserFeed (key ++ lit ": " ++ value) = .pair key value := by
  rcases pairKey with ⟨isKey, noColon, -⟩
  have pair := isKey.pairLine key value oneLine
  have split : key ++ lit ": " ++ value = key ++ colon :: 32 :: value := by
    rw [List.append_assoc]
    rfl
  rw [mpdcronParserFeed, if_neg pair.notOk, if_neg pair.notAck, split,
    strchr_append key _ colon noColon, Delimited.takeWhile_front colon key _ noColon]
  rfl

section Encoding

variable {α : Type} (kind : ItemKind α)

/-- Lines that the loop reads as one item. -/
structure Encodes (texts : List Bytes) (item : α) : Prop where
  decodes : ∀ rest current values,
    parseItems kind (texts ++ rest) current values
      = parseItems kind rest (some item) (current.toList ++ values)
  oneLine : ∀ text ∈ texts, newline ∉ text

variable {kind}

theorem parseItems_pair (key value : Bytes) (pairKey : PairKey key) (oneLine : newline ∉ value)
    (noNul : (0 : UInt8) ∉ value) : upToNul (key ++ lit ": " ++ value) = key ++ lit ": " ++ value ∧
      mpdcronParserFeed (key ++ lit ": " ++ value) = .pair key value ∧
      newline ∉ key ++ lit ": " ++ value := by
  have separator : (0 : UInt8) ∉ lit ": " := by decide
  have whole : (0 : UInt8) ∉ key ++ lit ": " ++ value := by simp [pairKey.2.2, separator, noNul]
  exact ⟨upToNul_eq _ whole, feed_pair key value pairKey oneLine,
    (pairKey.1.pairLine key value oneLine).oneLine⟩

/-- An `int` as it is sent. -/
structure IntRange (value : Int) : Prop where
  low : intMin ≤ value
  high : value ≤ intMax

theorem Encodes.id (id : Int) (range : IntRange id) :
    Encodes kind [numberLine "id" id] (kind.new id) := by
  obtain ⟨whole, pair, oneLine⟩ := parseItems_pair (lit "id") (decimal id) (by decide)
    (decimal_oneLine id) (decimal_noNul id)
  refine ⟨fun rest current values => ?_, by simpa [numberLine] using oneLine⟩
  rw [List.singleton_append, numberLine, parseItems, whole, pair]
  dsimp only
  rw [if_pos rfl, atoi_decimal id range.low range.high]

theorem Encodes.field (texts : List Bytes) (item : α) (encodes : Encodes kind texts item)
    (key : String) (value : Bytes) (set : α → α) (sets : kind.field (lit key) value = some set)
    (pairKey : PairKey (lit key)) (notId : lit key ≠ lit "id") (plain : newline ∉ value)
    (noNul : (0 : UInt8) ∉ value) :
    Encodes kind (texts ++ [lit key ++ lit ": " ++ value]) (set item) := by
  rcases parseItems_pair (lit key) value pairKey plain noNul with ⟨whole, pair, oneLine⟩
  refine ⟨fun rest current values => ?_, ?_⟩
  · rw [List.append_assoc, encodes.decodes, List.singleton_append, parseItems, whole, pair]
    dsimp only
    rw [if_neg notId, sets]
  · rw [List.forall_mem_append, List.forall_mem_singleton]
    exact ⟨encodes.oneLine, oneLine⟩

theorem Encodes.number (texts : List Bytes) (item : α) (encodes : Encodes kind texts item)
    (key : String) (value : Int) (range : IntRange value) (set : Int → α → α)
    (sets : ∀ text, kind.field (lit key) text = some (set (atoi text)))
    (pairKey : PairKey (lit key)) (notId : lit key ≠ lit "id") :
    Encodes kind (texts ++ [numberLine key value]) (set value item) := by
  have field := encodes.field texts item key (decimal value) _ (sets _) pairKey notId
    (decimal_oneLine value) (decimal_noNul value)
  rwa [atoi_decimal value range.low range.high] at field

theorem Encodes.tags (push : Bytes → α → α)
    (pushes : ∀ value, kind.field (lit "Tag") value = some (push value)) (tags : List Bytes) :
    ∀ (texts : List Bytes) (item : α), Encodes kind texts item →
      (∀ tag ∈ tags, newline ∉ tag ∧ (0 : UInt8) ∉ tag) →
      Encodes kind (texts ++ tags.map fun tag => textLine "Tag" (some tag))
        (tags.foldl (fun item tag => push tag item) item) := by
  induction tags with
  | nil =>
      intro texts item encodes plain
      simpa using encodes
  | cons tag tags ih =>
      intro texts item encodes plain
      rw [List.forall_mem_cons] at plain
      have first := encodes.field texts item "Tag" tag (push tag) (pushes tag) (by decide) (by decide)
        plain.1.1 plain.1.2
      have rest := ih _ _ first plain.2
      rwa [List.append_assoc] at rest

/-- A whole answer: the items in the reverse of their order, after what was there. -/
theorem parseItems_answer (texts : List (List Bytes)) (items : List α) (rest : List Bytes)
    (encodes : List.Forall₂ (Encodes kind) texts items) : ∀ (current : Option α) (values : List α),
      parseItems kind (texts.flatten ++ lit "OK" :: rest) current values
        = .ok (true, items.reverse ++ current.toList ++ values, { input := rest, error := none }) := by
  induction encodes with
  | nil => intro current values; rfl
  | cons first others ih =>
      intro current values
      rw [List.flatten_cons, List.append_assoc, first.decodes, ih]
      simp

end Encoding

theorem splitOn_sent_append (lines : List Bytes) (more : Bytes)
    (plain : ∀ line ∈ lines, newline ∉ line) :
    (sent lines ++ more).splitOn newline = lines ++ more.splitOn newline := by
  induction lines with
  | nil => rfl
  | cons line lines ih =>
      rw [List.forall_mem_cons] at plain
      rw [sent_cons, List.append_assoc, List.cons_append, List.splitOn_append_cons_self, ih plain.2,
        List.splitOn_eq_singleton plain.1]
      rfl

theorem streamLines_sent (lines : List Bytes) (more : Bytes)
    (plain : ∀ line ∈ lines, newline ∉ line) :
    streamLines (sent lines ++ more) = lines ++ streamLines more := by
  have nonempty := List.splitOn_ne_nil newline more
  rw [streamLines, splitOn_sent_append lines more plain, streamLines,
    List.getLast?_append_of_ne_nil _ nonempty, List.dropLast_append_of_ne_nil nonempty]
  split <;> rfl

/-- What a client shows of tags: the last comes first. -/
def shownTags (tags : Option (List Bytes)) : List Bytes := ((tags.getD []).filter (· ≠ [])).reverse

def songOf (data : DbSongData) : MpdcronSong :=
  { id := data.id, playCount := data.playCount, uri := data.uri, love := data.love
    kill := data.kill, rating := data.rating, karma := data.karma, lastPlayed := data.lastPlayed
    tags := shownTags data.tags }

def entityOf (data : DbGenericData) : MpdcronEntity :=
  { id := data.id, playCount := data.playCount, name := data.name, artist := data.artist
    love := data.love, kill := data.kill, rating := data.rating, tags := shownTags data.tags }

/-- What a row of a result set is like; the times are those up to the year 9999. -/
structure SoundRow (shown : Shown) (row : Columns) : Prop where
  ints : ∀ column ∈ row, IntRange column.int
  texts : ∀ index ∈ shown.texts, SingleLine (row.text index)
  lastPlayed : ∀ index ∈ shown.lastPlayed,
    row.int64 index = 0 ∨ (1 ≤ row.int64 index ∧ row.int64 index ≤ 253402300799)
  tags : ∀ index ∈ shown.tags, SingleLine (row.text index)

theorem SoundRow.int {shown : Shown} {row : Columns} (sound : SoundRow shown row) (index : Nat) :
    IntRange (row.int index) := by
  rw [Columns.int, List.getD_eq_getElem?_getD]
  cases column : row[index]? with
  | none => exact ⟨by decide, by decide⟩
  | some column' => exact sound.ints column' (List.mem_of_getElem? column)

theorem columns_noNul (row : Columns) (index : Nat) (text : Bytes)
    (given : row.text index = some text) : (0 : UInt8) ∉ text := by
  rw [Columns.text] at given
  rcases Option.map_eq_some_iff.mp given with ⟨raw, -, rfl⟩
  exact upToNul_noNul raw

/-- A text that is sent whole. -/
def SentText (value : Option Bytes) (text : Bytes) : Prop :=
  value = some text ∧ newline ∉ text ∧ (0 : UInt8) ∉ text

theorem SoundRow.text {shown : Shown} {row : Columns} (sound : SoundRow shown row) (index : Nat)
    (printed : index ∈ shown.texts) : ∃ text, SentText (row.text index) text := by
  rcases sound.texts index printed with ⟨text, given, plain⟩
  exact ⟨text, given, plain, columns_noNul row index text given⟩

theorem SoundRow.tagText {shown : Shown} {row : Columns} (sound : SoundRow shown row) (index : Nat)
    (printed : shown.tags = some index) : ∃ text, SentText (row.text index) text := by
  rcases sound.tags index printed with ⟨text, given, plain⟩
  exact ⟨text, given, plain, columns_noNul row index text given⟩

theorem Encodes.text {α : Type} {kind : ItemKind α} (texts : List Bytes) (item : α)
    (encodes : Encodes kind texts item) (key : String) (value : Option Bytes) (text : Bytes)
    (whole : SentText value text) (set : Bytes → α → α)
    (sets : ∀ text, kind.field (lit key) text = some (set text)) (pairKey : PairKey (lit key))
    (notId : lit key ≠ lit "id") :
    Encodes kind (texts ++ [textLine key value]) (set text item) := by
  rcases whole with ⟨rfl, plain, noNul⟩
  exact encodes.field texts item key text (set text) (sets text) pairKey notId plain noNul

section Songs

variable (strptime : Bytes → Int)

theorem songLines_encode (data : DbSongData) (id : IntRange data.id) (uri : Bytes)
    (whole : SentText data.uri uri) :
    Encodes (songKind strptime) (songLines data) { id := data.id, uri := data.uri } := by
  have first : Encodes (songKind strptime) [numberLine "id" data.id] { id := data.id } :=
    Encodes.id data.id id
  have file := first.text _ _ "file" data.uri uri whole
    (fun text song => { song with uri := some text }) (fun _ => rfl) (by decide) (by decide)
  rw [whole.1] at file
  rw [songLines, whole.1]
  exact file

theorem songCountLines_encode (data : DbSongData) (playCount : IntRange data.playCount)
    (love : IntRange data.love) (kill : IntRange data.kill) (rating : IntRange data.rating)
    (karma : IntRange data.karma) (texts : List Bytes) (song : MpdcronSong)
    (encodes : Encodes (songKind strptime) texts song) :
    Encodes (songKind strptime) (texts ++ songCountLines data)
      { song with
        playCount := data.playCount, love := data.love, kill := data.kill
        rating := data.rating, karma := data.karma } := by
  have counted := encodes.number _ _ "Play Count" data.playCount playCount
    (fun value song => { song with playCount := value }) (fun _ => rfl) (by decide) (by decide)
  have loved := counted.number _ _ "Love" data.love love
    (fun value song => { song with love := value }) (fun _ => rfl) (by decide) (by decide)
  have killed := loved.number _ _ "Kill" data.kill kill
    (fun value song => { song with kill := value }) (fun _ => rfl) (by decide) (by decide)
  have rated := killed.number _ _ "Rating" data.rating rating
    (fun value song => { song with rating := value }) (fun _ => rfl) (by decide) (by decide)
  have all := rated.number _ _ "Karma" data.karma karma
    (fun value song => { song with karma := value }) (fun _ => rfl) (by decide) (by decide)
  simp only [List.append_assoc] at all
  exact all

/-- Inverse functions on the times of the years 1970 to 9999. -/
def TimeInverse (strftime : Int → Option Bytes) (strptime : Bytes → Int) : Prop :=
  ∀ time, 1 ≤ time → time ≤ 253402300799 →
    ∃ text, SentText (strftime time) text ∧ strptime text = time

theorem lastPlayedLines_encode (strftime : Int → Option Bytes) (inverse : TimeInverse strftime strptime)
    (lastPlayed : Int) (range : lastPlayed = 0 ∨ (1 ≤ lastPlayed ∧ lastPlayed ≤ 253402300799))
    (texts : List Bytes) (song : MpdcronSong) (never : song.lastPlayed = 0)
    (encodes : Encodes (songKind strptime) texts song) :
    ∃ more, lastPlayedLines strftime lastPlayed = .ok more ∧
      Encodes (songKind strptime) (texts ++ more) { song with lastPlayed := lastPlayed } := by
  rw [lastPlayedLines]
  by_cases zero : lastPlayed = 0
  · have same : { song with lastPlayed := lastPlayed } = song := by rw [zero, ← never]
    rw [if_pos zero, same]
    exact ⟨[], rfl, by simpa using encodes⟩
  · rcases range.resolve_left zero with ⟨low, high⟩
    rcases inverse lastPlayed low high with ⟨text, whole, back⟩
    have timed := encodes.text _ _ "Last Played" (some text) text ⟨rfl, whole.2⟩
      (fun text song => { song with lastPlayed := strptime text }) (fun _ => rfl) (by decide)
      (by decide)
    rw [back] at timed
    rw [if_neg zero, whole.1]
    exact ⟨_, rfl, timed⟩

theorem pieces_sent (text : Bytes) (plain : newline ∉ text) (noNul : (0 : UInt8) ∉ text) :
    ∀ tag ∈ (gStrsplit text).filter (· ≠ []), newline ∉ tag ∧ (0 : UInt8) ∉ tag := by
  rw [gStrsplit_filter]
  intro tag kept
  have inText := (List.mem_filter.mp kept).1
  exact ⟨fun present => plain ((mem_splitOn colon newline (by decide) text).mp ⟨tag, inText, present⟩),
    fun present => noNul ((mem_splitOn colon 0 (by decide) text).mp ⟨tag, inText, present⟩)⟩

theorem song_pushes (tags : List Bytes) : ∀ song : MpdcronSong,
    tags.foldl (fun song tag => { song with tags := tag :: song.tags }) song
      = { song with tags := tags.reverse ++ song.tags } := by
  induction tags with
  | nil => intro song; rfl
  | cons tag tags ih =>
      intro song
      rw [List.foldl_cons, ih]
      simp

theorem entity_pushes (tags : List Bytes) : ∀ entity : MpdcronEntity,
    tags.foldl (fun entity tag => { entity with tags := tag :: entity.tags }) entity
      = { entity with tags := tags.reverse ++ entity.tags } := by
  induction tags with
  | nil => intro entity; rfl
  | cons tag tags ih =>
      intro entity
      rw [List.foldl_cons, ih]
      simp

theorem tagLines_encode {α : Type} {kind : ItemKind α} (push : Bytes → α → α)
    (pushes : ∀ value, kind.field (lit "Tag") value = some (push value)) (value : Option Bytes)
    (text : Bytes) (whole : SentText value text) (texts : List Bytes) (item : α)
    (encodes : Encodes kind texts item) :
    ∃ more, tagLines (value.map gStrsplit) = .ok more ∧
      Encodes kind (texts ++ more)
        (((gStrsplit text).filter (· ≠ [])).foldl (fun item tag => push tag item) item) := by
  rcases whole with ⟨rfl, plain, noNul⟩
  exact ⟨_, rfl, Encodes.tags push pushes _ texts item encodes (pieces_sent text plain noNul)⟩

theorem songTags_encode (value : Option Bytes) (text : Bytes) (whole : SentText value text)
    (texts : List Bytes) (song : MpdcronSong) (untagged : song.tags = [])
    (encodes : Encodes (songKind strptime) texts song) :
    ∃ more, tagLines (value.map gStrsplit) = .ok more ∧
      Encodes (songKind strptime) (texts ++ more)
        { song with tags := shownTags (value.map gStrsplit) } := by
  obtain ⟨more, printed, tagged⟩ := tagLines_encode
    (fun tag song => { song with tags := tag :: song.tags }) (fun _ => rfl) value text whole texts
    song encodes
  rw [song_pushes, untagged, List.append_nil] at tagged
  rw [whole.1] at printed ⊢
  exact ⟨more, printed, tagged⟩

end Songs

section Entities

/-- The keys of an entity that its kind does not treat in its own way. -/
def CommonFields (kind : ItemKind MpdcronEntity) : Prop :=
  ∀ key ∈ [lit "Love", lit "Kill", lit "Rating", lit "Play Count", lit "Tag"], ∀ value,
    kind.field key value = entityField key value

theorem albumKind_common : CommonFields albumKind := by
  simp only [CommonFields, List.forall_mem_cons]
  exact ⟨fun _ => rfl, fun _ => rfl, fun _ => rfl, fun _ => rfl, fun _ => rfl, List.forall_mem_nil _⟩

theorem artistKind_common : CommonFields artistKind := by
  simp only [CommonFields, List.forall_mem_cons]
  exact ⟨fun _ => rfl, fun _ => rfl, fun _ => rfl, fun _ => rfl, fun _ => rfl, List.forall_mem_nil _⟩

theorem genreKind_common : CommonFields genreKind := by
  simp only [CommonFields, List.forall_mem_cons]
  exact ⟨fun _ => rfl, fun _ => rfl, fun _ => rfl, fun _ => rfl, fun _ => rfl, List.forall_mem_nil _⟩

theorem genericLines_encode (kind : ItemKind MpdcronEntity) (key : String)
    (starts : kind.new = newEntity)
    (named : ∀ text, kind.field (lit key) text = some fun entity => { entity with name := some text })
    (pairKey : PairKey (lit key)) (notId : lit key ≠ lit "id") (data : DbGenericData)
    (id : IntRange data.id) (name : Bytes) (whole : SentText data.name name) :
    Encodes kind (genericLines key data) { id := data.id, name := data.name } := by
  have first : Encodes kind [numberLine "id" data.id] (kind.new data.id) := Encodes.id data.id id
  have both := first.text _ _ key data.name name whole
    (fun text entity => { entity with name := some text }) named pairKey notId
  rw [starts, whole.1] at both
  rw [genericLines, whole.1]
  exact both

theorem albumLines_encode (data : DbGenericData) (id : IntRange data.id) (name artist : Bytes)
    (wholeName : SentText data.name name) (wholeArtist : SentText data.artist artist) :
    Encodes albumKind (albumLines data)
      { id := data.id, name := data.name, artist := data.artist } := by
  have first : Encodes albumKind [numberLine "id" data.id] (newEntity data.id) :=
    Encodes.id data.id id
  have album := first.text _ _ "Album" data.name name wholeName
    (fun text album => { album with name := some text }) (fun _ => rfl) (by decide) (by decide)
  have all := album.text _ _ "Artist" data.artist artist wholeArtist
    (fun text album => { album with artist := some text }) (fun _ => rfl) (by decide) (by decide)
  rw [wholeName.1, wholeArtist.1] at all
  rw [albumLines, wholeName.1, wholeArtist.1]
  exact all

theorem countLines_encode (kind : ItemKind MpdcronEntity) (common : CommonFields kind)
    (data : DbGenericData) (playCount : IntRange data.playCount) (love : IntRange data.love)
    (kill : IntRange data.kill) (rating : IntRange data.rating) (texts : List Bytes)
    (entity : MpdcronEntity) (encodes : Encodes kind texts entity) :
    Encodes kind (texts ++ countLines data)
      { entity with
        playCount := data.playCount, love := data.love, kill := data.kill
        rating := data.rating } := by
  have counted := encodes.number _ _ "Play Count" data.playCount playCount
    (fun value entity => { entity with playCount := value }) (common _ (by decide)) (by decide)
    (by decide)
  have loved := counted.number _ _ "Love" data.love love
    (fun value entity => { entity with love := value }) (common _ (by decide)) (by decide) (by decide)
  have killed := loved.number _ _ "Kill" data.kill kill
    (fun value entity => { entity with kill := value }) (common _ (by decide)) (by decide) (by decide)
  have all := killed.number _ _ "Rating" data.rating rating
    (fun value entity => { entity with rating := value }) (common _ (by decide)) (by decide)
    (by decide)
  simp only [List.append_assoc] at all
  exact all

theorem entityTags_encode (kind : ItemKind MpdcronEntity) (common : CommonFields kind)
    (value : Option Bytes) (text : Bytes) (whole : SentText value text) (texts : List Bytes)
    (entity : MpdcronEntity) (untagged : entity.tags = []) (encodes : Encodes kind texts entity) :
    ∃ more, tagLines (value.map gStrsplit) = .ok more ∧
      Encodes kind (texts ++ more) { entity with tags := shownTags (value.map gStrsplit) } := by
  obtain ⟨more, printed, tagged⟩ := tagLines_encode
    (fun tag entity => { entity with tags := tag :: entity.tags }) (common _ (by decide)) value text
    whole texts entity encodes
  rw [entity_pushes, untagged, List.append_nil] at tagged
  rw [whole.1] at printed ⊢
  exact ⟨more, printed, tagged⟩

end Entities

end Mpdcron.Eugene
