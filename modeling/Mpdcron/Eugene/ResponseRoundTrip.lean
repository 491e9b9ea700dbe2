import Mpdcron.Eugene.ListRoundTrip

/-! The replies of the server, decoded by the client. -/

namespace Mpdcron.Eugene

open CString
open Mpdcron.Stats

/-- A listing command: the handler, what it selects and prints of a row, the client's parse
function, and the item that a row becomes. -/
structure Exchange (Db α : Type) where
  handler : Handler Db
  what : Bytes
  tbl : Table
  shown : Shown
  parse : Connection → List α → Parsed α
  row : Columns → α

section Exchanges

variable {Db α : Type}

/-- Whatever rows the SELECT returns, the client gets them back, in their order, and goes on
at the next line. -/
def Exchange.RoundTrips (exchange : Exchange Db α) (host : Host Db) : Prop :=
  ∀ (client : Nat) (name expr command : Bytes) (st : State Db) (execution : Execution Db),
    st.currentCommand = some command →
    host.sqlite.prepare st.allowed (selectText exchange.what exchange.tbl expr) st.db
      = .ok execution →
    execution.failure = none → (∀ row ∈ execution.rows, SoundRow exchange.shown row) →
    ∃ after answer, exchange.handler client [name, expr] st = .ok (.ok, after) ∧
      after.output client = st.output client ++ answer ∧
      ∀ more values, exchange.parse { input := streamLines (answer ++ more), error := none } values
        = .ok (true, execution.rows.map exchange.row ++ values,
            { input := streamLines more, error := none })

variable (host : Host Db) (strptime : Bytes → Int)

def songExchanges : List (Exchange Db MpdcronSong) :=
  [{ handler := handleList host, what := lit "id, uri", tbl := .song, shown := { texts := [1] }
     parse := mpdcronParseSongs strptime, row := fun row => songOf (readListSong row) },
    { handler := handleListinfo host
      what := lit "id, play_count, love, kill, rating, karma, last_played, uri", tbl := .song
      shown := { texts := [7], lastPlayed := some 6 }
      parse := mpdcronParseSongs strptime, row := fun row => songOf (readListinfoSong row) },
    { handler := handleListtags host, what := lit "id, uri, tags", tbl := .song
      shown := { texts := [1], tags := some 2 }
      parse := mpdcronParseSongs strptime, row := fun row => songOf (readTagsSong row) }]

def albumExchanges : List (Exchange Db MpdcronEntity) :=
  [{ handler := handleListAlbum host, what := lit "id, name, artist", tbl := .album
     shown := { texts := [1, 2] }
     parse := mpdcronParseAlbums, row := fun row => entityOf (readListAlbum row) },
    { handler := handleListinfoAlbum host
      what := lit "id, play_count, name, artist, love, kill, rating", tbl := .album
      shown := { texts := [2, 3] }
      parse := mpdcronParseAlbums, row := fun row => entityOf (readListinfoAlbum row) },
    { handler := handleListtagsAlbum host, what := lit "id, name, artist, tags", tbl := .album
      shown := { texts := [1, 2], tags := some 3 }
      parse := mpdcronParseAlbums, row := fun row => entityOf (readTagsAlbum row) }]

def artistExchanges : List (Exchange Db MpdcronEntity) :=
  [{ handler := handleListArtist host, what := lit "id, name", tbl := .artist
     shown := { texts := [1] }
     parse := mpdcronParseArtists, row := fun row => entityOf (readListGeneric row) },
    { handler := handleListinfoArtist host
      what := lit "id, play_count, name, love, kill, rating", tbl := .artist
      shown := { texts := [2] }
      parse := mpdcronParseArtists, row := fun row => entityOf (readListinfoGeneric row) },
    { handler := handleListtagsArtist host, what := lit "id, name, tags", tbl := .artist
      shown := { texts := [1], tags := some 2 }
      parse := mpdcronParseArtists, row := fun row => entityOf (readTagsGeneric row) }]

def genreExchanges : List (Exchange Db MpdcronEntity) :=
  [{ handler := handleListGenre host, what := lit "id, name", tbl := .genre
     shown := { texts := [1] }
     parse := mpdcronParseGenres, row := fun row => entityOf (readListGeneric row) },
    { handler := handleListinfoGenre host
      what := lit "id, play_count, name, love, kill, rating", tbl := .genre
      shown := { texts := [2] }
      parse := mpdcronParseGenres, row := fun row => entityOf (readListinfoGeneric row) },
    { handler := handleListtagsGenre host, what := lit "id, name, tags", tbl := .genre
      shown := { texts := [1], tags := some 2 }
      parse := mpdcronParseGenres, row := fun row => entityOf (readTagsGeneric row) }]

variable {host strptime}

theorem mapM_encodes (kind : ItemKind α) (lines : Columns → Except Fault (List Bytes))
    (item : Columns → α) (rows : List Columns)
    (encodes : ∀ row ∈ rows, ∃ texts, lines row = .ok texts ∧ Encodes kind texts (item row)) :
    ∃ all, rows.mapM lines = .ok all ∧ List.Forall₂ (Encodes kind) all (rows.map item) := by
  induction rows with
  | nil => exact ⟨[], rfl, .nil⟩
  | cons row rows ih =>
      rw [List.forall_mem_cons] at encodes
      rcases encodes.1 with ⟨texts, printed, first⟩
      rcases ih encodes.2 with ⟨all, rest, others⟩
      refine ⟨texts :: all, ?_, .cons first others⟩
      rw [List.mapM_cons, printed, rest]
      rfl

theorem encodes_oneLine (kind : ItemKind α) (all : List (List Bytes)) (items : List α)
    (encodes : List.Forall₂ (Encodes kind) all items) : ∀ line ∈ all.flatten, newline ∉ line := by
  induction encodes with
  | nil => exact List.forall_mem_nil _
  | cons first others ih => exact List.forall_mem_append.mpr ⟨first.oneLine, ih⟩

theorem roundTrips_of (exchange : Exchange Db α) (kind : ItemKind α)
    (lines : Columns → Except Fault (List Bytes))
    (replies : Replies exchange.handler
      (Listing.reply host.sqlite ⟨exchange.what, exchange.tbl, lines⟩))
    (parses : ∀ conn values, exchange.parse conn values = parseItems kind conn.input none values)
    (encodes : ∀ row, SoundRow exchange.shown row →
      ∃ texts, lines row = .ok texts ∧ Encodes kind texts (exchange.row row)) :
    exchange.RoundTrips host := by
  intro client name expr command st execution current prepared finished sound
  obtain ⟨all, printed, items⟩ := mapM_encodes kind lines exchange.row execution.rows.reverse
    fun row inRows => encodes row (sound row (List.mem_reverse.mp inRows))
  have plain : ∀ line ∈ all.flatten ++ [lit "OK"], newline ∉ line := by
    rw [List.forall_mem_append, List.forall_mem_singleton]
    exact ⟨encodes_oneLine kind all _ items, by decide⟩
  have replied : Listing.reply host.sqlite ⟨exchange.what, exchange.tbl, lines⟩ st.allowed
      [name, expr] st.db = .ok { lines := all.flatten, db := execution.final } := by
    rw [Listing.reply, prepared]
    dsimp only
    rw [finished]
    dsimp only
    rw [printed]
    rfl
  let reply : Reply Db := { lines := all.flatten, db := execution.final }
  refine ⟨reply.after client command st, sent (all.flatten ++ [lit "OK"]), ?_, ?_,
    fun more values => ?_⟩
  · rw [replies client [name, expr] st command current, replied]
    rfl
  · exact Function.update_self client _ st.output
  · rw [parses]
    dsimp only
    rw [streamLines_sent _ more plain, List.append_assoc]
    have parsed := parseItems_answer all _ (streamLines more) items none values
    rw [List.map_reverse, List.reverse_reverse] at parsed
    simpa using parsed

theorem printed_append (texts more : List Bytes) (result : Except Fault (List Bytes))
    (printed : result = .ok more) : (do return texts ++ (← result)) = Except.ok (texts ++ more) := by
  rw [printed]
  rfl

theorem songs_roundTrip (inverse : TimeInverse host.strftime strptime) :
    ∀ exchange ∈ songExchanges host strptime, exchange.RoundTrips host := by
  simp only [songExchanges, List.forall_mem_cons]
  refine ⟨?list, ?listinfo, ?listtags, List.forall_mem_nil _⟩
  case list =>
    refine roundTrips_of _ (songKind strptime) _ (handleSelect_replies host.sqlite _ _ _ _)
      (fun _ _ => rfl) fun row sound => ?_
    rcases sound.text 1 (by simp) with ⟨uri, whole⟩
    exact ⟨_, rfl, songLines_encode strptime (readListSong row) (sound.int 0) uri whole⟩
  case listinfo =>
    refine roundTrips_of _ (songKind strptime) _ (handleSelect_replies host.sqlite _ _ _ _)
      (fun _ _ => rfl) fun row sound => ?_
    rcases sound.text 7 (by simp) with ⟨uri, whole⟩
    have counted := songCountLines_encode strptime (readListinfoSong row) (sound.int 1) (sound.int 2)
      (sound.int 3) (sound.int 4) (sound.int 5) _ _
      (songLines_encode strptime (readListinfoSong row) (sound.int 0) uri whole)
    obtain ⟨more, printed, timed⟩ := lastPlayedLines_encode strptime host.strftime inverse
      (row.int64 6) (sound.lastPlayed 6 rfl) _ _ rfl counted
    exact ⟨_, printed_append _ more _ printed, timed⟩
  case listtags =>
    refine roundTrips_of _ (songKind strptime) _ (handleSelect_replies host.sqlite _ _ _ _)
      (fun _ _ => rfl) fun row sound => ?_
    rcases sound.text 1 (by simp) with ⟨uri, wholeUri⟩
    rcases sound.tagText 2 rfl with ⟨tags, wholeTags⟩
    obtain ⟨more, printed, tagged⟩ := songTags_encode strptime (row.text 2) tags wholeTags _ _ rfl
      (songLines_encode strptime (readTagsSong row) (sound.int 0) uri wholeUri)
    exact ⟨_, printed_append _ more _ printed, tagged⟩

theorem albums_roundTrip : ∀ exchange ∈ albumExchanges host, exchange.RoundTrips host := by
  simp only [albumExchanges, List.forall_mem_cons]
  refine ⟨?list, ?listinfo, ?listtags, List.forall_mem_nil _⟩
  case list =>
    refine roundTrips_of _ albumKind _ (handleSelect_replies host.sqlite _ _ _ _)
      (fun _ _ => rfl) fun row sound => ?_
    rcases sound.text 1 (by simp) with ⟨name, wholeName⟩
    rcases sound.text 2 (by simp) with ⟨artist, wholeArtist⟩
    exact ⟨_, rfl,
      albumLines_encode (readListAlbum row) (sound.int 0) name artist wholeName wholeArtist⟩
  case listinfo =>
    refine roundTrips_of _ albumKind _ (handleSelect_replies host.sqlite _ _ _ _)
      (fun _ _ => rfl) fun row sound => ?_
    rcases sound.text 2 (by simp) with ⟨name, wholeName⟩
    rcases sound.text 3 (by simp) with ⟨artist, wholeArtist⟩
    exact ⟨_, rfl, countLines_encode albumKind albumKind_common (readListinfoAlbum row)
      (sound.int 1) (sound.int 4) (sound.int 5) (sound.int 6) _ _
      (albumLines_encode (readListinfoAlbum row) (sound.int 0) name artist wholeName wholeArtist)⟩
  case listtags =>
    refine roundTrips_of _ albumKind _ (handleSelect_replies host.sqlite _ _ _ _)
      (fun _ _ => rfl) fun row sound => ?_
    rcases sound.text 1 (by simp) with ⟨name, wholeName⟩
    rcases sound.text 2 (by simp) with ⟨artist, wholeArtist⟩
    rcases sound.tagText 3 rfl with ⟨tags, wholeTags⟩
    obtain ⟨more, printed, tagged⟩ := entityTags_encode albumKind albumKind_common (row.text 3) tags
      wholeTags _ _ rfl
      (albumLines_encode (readTagsAlbum row) (sound.int 0) name artist wholeName wholeArtist)
    exact ⟨_, printed_append _ more _ printed, tagged⟩

variable (host) in
/-- The three commands of a kind that has a name only. -/
theorem generic_roundTrip (kind : ItemKind MpdcronEntity) (common : CommonFields kind) (key : String)
    (starts : kind.new = newEntity)
    (named : ∀ text, kind.field (lit key) text = some fun entity => { entity with name := some text })
    (pairKey : PairKey (lit key)) (notId : lit key ≠ lit "id") (tbl : Table) :
    (Exchange.mk
      (handleSelect (fun data => .ok (genericLines key data)) fun allowed expr db =>
        dbListExpr host.sqlite allowed (lit "id, name") tbl readListGeneric expr db)
      (lit "id, name") tbl { texts := [1] } (fun conn => parseItems kind conn.input none)
      fun row => entityOf (readListGeneric row)).RoundTrips host ∧
    (Exchange.mk
      (handleSelect (fun data => .ok (genericLines key data ++ countLines data))
        fun allowed expr db => dbListExpr host.sqlite allowed
          (lit "id, play_count, name, love, kill, rating") tbl readListinfoGeneric expr db)
      (lit "id, play_count, name, love, kill, rating") tbl { texts := [2] }
      (fun conn => parseItems kind conn.input none)
      fun row => entityOf (readListinfoGeneric row)).RoundTrips host ∧
    (Exchange.mk
      (handleSelect (fun data => do return genericLines key data ++ (← tagLines data.tags))
        fun allowed expr db =>
          dbListExpr host.sqlite allowed (lit "id, name, tags") tbl readTagsGeneric expr db)
      (lit "id, name, tags") tbl { texts := [1], tags := some 2 }
      (fun conn => parseItems kind conn.input none)
      fun row => entityOf (readTagsGeneric row)).RoundTrips host := by
  have encode := genericLines_encode kind key starts named pairKey notId
  refine ⟨?list, ?listinfo, ?listtags⟩
  case list =>
    refine roundTrips_of _ kind _ (handleSelect_replies host.sqlite _ _ _ _)
      (fun _ _ => rfl) fun row sound => ?_
    rcases sound.text 1 (by simp) with ⟨name, whole⟩
    exact ⟨_, rfl, encode (readListGeneric row) (sound.int 0) name whole⟩
  case listinfo =>
    refine roundTrips_of _ kind _ (handleSelect_replies host.sqlite _ _ _ _)
      (fun _ _ => rfl) fun row sound => ?_
    rcases sound.text 2 (by simp) with ⟨name, whole⟩
    exact ⟨_, rfl, countLines_encode kind common (readListinfoGeneric row) (sound.int 1)
      (sound.int 3) (sound.int 4) (sound.int 5) _ _
      (encode (readListinfoGeneric row) (sound.int 0) name whole)⟩
  case listtags =>
    refine roundTrips_of _ kind _ (handleSelect_replies host.sqlite _ _ _ _)
      (fun _ _ => rfl) fun row sound => ?_
    rcases sound.text 1 (by simp) with ⟨name, whole⟩
    rcases sound.tagText 2 rfl with ⟨tags, wholeTags⟩
    obtain ⟨more, printed, tagged⟩ := entityTags_encode kind common (row.text 2) tags wholeTags _ _
      rfl (encode (readTagsGeneric row) (sound.int 0) name whole)
    exact ⟨_, printed_append _ more _ printed, tagged⟩

theorem artists_roundTrip : ∀ exchange ∈ artistExchanges host, exchange.RoundTrips host := by
  have three := generic_roundTrip host artistKind artistKind_common "Artist" rfl (fun _ => rfl)
    (by decide) (by decide) .artist
  simp only [artistExchanges, List.forall_mem_cons]
  exact ⟨three.1, three.2.1, three.2.2, List.forall_mem_nil _⟩

theorem genres_roundTrip : ∀ exchange ∈ genreExchanges host, exchange.RoundTrips host := by
  have three := generic_roundTrip host genreKind genreKind_common "Genre" rfl (fun _ => rfl)
    (by decide) (by decide) .genre
  simp only [genreExchanges, List.forall_mem_cons]
  exact ⟨three.1, three.2.1, three.2.2, List.forall_mem_nil _⟩

end Exchanges

/-- The text and code of an `ACK` line, found again. -/
theorem feed_ackLine (code : Int) (range : IntRange code) (command message : Bytes)
    (noBrace : 125 ∉ command) (nonempty : message ≠ []) (notSpace : message.head? ≠ some 32) :
    mpdcronParserFeed (ackLine code command message) = .error code 0 (some message) := by
  let behind : Bytes := 32 :: 123 :: (command ++ 125 :: 32 :: message)
  have line : ackLine code command message
      = lit "ACK" ++ ([32] ++ 91 :: (decimal code ++ 93 :: behind)) := by
    simp only [ackLine, List.append_assoc]
    rfl
  have bracket : strchr ([32] ++ 91 :: (decimal code ++ 93 :: behind)) 91
      = some (91 :: (decimal code ++ 93 :: behind)) := strchr_append _ _ _ (by decide)
  have number : strtol (decimal code ++ 93 :: behind) = (code, 93 :: behind) :=
    strtol_decimal code _ (by simp [EndsNumber]; decide)
  have position : parsePosition (93 :: behind) = (0, 93 :: behind) := rfl
  have close : strchr (93 :: behind) 93 = some (93 :: behind) := strchr_append [] _ _ (by simp)
  have skipped : skipCommand behind = 32 :: message := by
    have opens : strchr behind 123 = some (123 :: (command ++ 125 :: 32 :: message)) :=
      strchr_append [32] _ _ (by decide)
    have closes : strchr behind 125 = some (125 :: 32 :: message) :=
      strchr_append (32 :: 123 :: command) _ _ (by simp [noBrace])
    rw [skipCommand, opens, closes]
    rfl
  have text : (32 :: message).dropWhile (· = 32) = message := by
    cases message with
    | nil => exact absurd rfl nonempty
    | cons ch message =>
        have other : ch ≠ 32 := fun same => notSpace (by rw [same]; rfl)
        simp [other]
  have notOk : ackLine code command message ≠ lit "OK" := by
    intro same
    rw [line] at same
    cases same
  have isAck : lit "ACK" <+: ackLine code command message := line ▸ List.prefix_append _ _
  have dropped : List.drop 3 (lit "ACK" ++ ([32] ++ 91 :: (decimal code ++ 93 :: behind)))
      = [32] ++ 91 :: (decimal code ++ 93 :: behind) := rfl
  calc mpdcronParserFeed (ackLine code command message)
      = parseAck (ackLine code command message) := by
        rw [mpdcronParserFeed, if_neg notOk, if_pos isAck]
    _ = .error (wrapInt (clampLong code)) 0 (some message) := by
        rw [line, parseAck, dropped, bracket]
        dsimp only [List.tail_cons]
        rw [number]
        dsimp only
        rw [position]
        dsimp only
        rw [close]
        simp only [List.tail_cons, skipped, text, if_neg nonempty]
    _ = .error code 0 (some message) := by rw [wrapInt_clampLong code range.low range.high]

/-- What `current_command` consists of. -/
def IsCommandText (command : Bytes) : Prop :=
  ∀ ch ∈ command, isAlpha ch = true ∨ isDigit ch = true ∨ ch = 95

theorem IsCommandText.notMem (command : Bytes) (isText : IsCommandText command) (ch : UInt8)
    (other : isAlpha ch = false ∧ isDigit ch = false ∧ ch ≠ 95) : ch ∉ command := by
  intro inCommand
  rcases isText ch inCommand with alpha | digit | underscore
  · rw [other.1] at alpha
    cases alpha
  · rw [other.2.1] at digit
    cases digit
  · exact other.2.2 underscore

/-- An error that `command_error_v` writes is one line, and the client gets its code and
message. -/
theorem commandError_roundTrip {Db : Type} (client : Nat) (code : Int) (range : IntRange code)
    (command message : Bytes) (isText : IsCommandText command) (nonempty : message ≠ [])
    (oneLine : newline ∉ message) (notSpace : message.head? ≠ some 32) (st : State Db)
    (current : st.currentCommand = some command) :
    ∃ after line, commandError client code message st = .ok after ∧
      after.output client = st.output client ++ (line ++ [newline]) ∧
      streamLines (line ++ [newline]) = [line] ∧
      mpdcronParserFeed line = .error code 0 (some message) := by
  have noNewline : newline ∉ command := isText.notMem command newline (by decide)
  have noBrace : 125 ∉ command := isText.notMem command 125 (by decide)
  have plain : newline ∉ ackLine code command message :=
    (ackLine_plain code command message noNewline).mpr oneLine
  have read := streamLines_sent [ackLine code command message] [] (by simpa using plain)
  rw [List.append_nil, sent_cons, sent_nil] at read
  refine ⟨_, ackLine code command message, by rw [commandError, current], ?_, read,
    feed_ackLine code range command message noBrace nonempty notSpace⟩
  exact Function.update_self client _ st.output

/-- The round trip of the replies: result sets of the twelve listing commands, and errors. -/
theorem response_round_trip {Db : Type} (host : Host Db) (strptime : Bytes → Int)
    (inverse : TimeInverse host.strftime strptime) :
    (∀ exchange ∈ songExchanges host strptime, exchange.RoundTrips host) ∧
      (∀ exchange ∈ albumExchanges host ++ artistExchanges host ++ genreExchanges host,
        exchange.RoundTrips host) ∧
      ∀ (client : Nat) (code : Int) (command message : Bytes) (st : State Db), IntRange code →
        IsCommandText command → message ≠ [] → newline ∉ message → message.head? ≠ some 32 →
        st.currentCommand = some command →
        ∃ after line, commandError client code message st = .ok after ∧
          after.output client = st.output client ++ (line ++ [newline]) ∧
          streamLines (line ++ [newline]) = [line] ∧
          mpdcronParserFeed line = .error code 0 (some message) := by
  refine ⟨songs_roundTrip inverse, ?entities, ?errors⟩
  case entities =>
    rw [List.forall_mem_append, List.forall_mem_append]
    exact ⟨⟨albums_roundTrip, artists_roundTrip⟩, genres_roundTrip⟩
  case errors =>
    intro client code command message st range isText nonempty oneLine notSpace current
    exact commandError_roundTrip client code range command message isText nonempty oneLine notSpace
      st current

/-- A song that was last played one second into the epoch. -/
def epochRow : Columns :=
  [⟨1, 1, some (lit "1")⟩, ⟨3, 3, some (lit "3")⟩, ⟨-2, -2, some (lit "-2")⟩,
    ⟨0, 0, some (lit "0")⟩, ⟨5, 5, some (lit "5")⟩, ⟨50, 50, some (lit "50")⟩,
    ⟨1, 1, some (lit "1")⟩, ⟨0, 0, some (lit "OK: a.ogg")⟩]

def epochSqlite : Sqlite Unit where
  prepare _ sql _ :=
    if sql = selectText (lit "id, play_count, love, kill, rating, karma, last_played, uri") .song
        (lit "id=1") then .ok (.row epochRow () (.done ()))
    else .ok (.done ())
  changes _ := 0
  reset _ _ := .ok ()
  runMaint _ _ _ := .done ()
  setAuthorizer _ _ := .ok ()

/-- Right for the first second only; the other times are printed as numbers. -/
def epochHost : Host Unit where
  sqlite := epochSqlite
  passwords := []
  strftime time := if time = 1 then some (lit "1970-01-01T00:00:01+0000") else some (decimal time)

def epochStrptime (text : Bytes) : Int :=
  if text = lit "1970-01-01T00:00:01+0000" then 1 else (strtol text).1

def epochStart : State Unit where
  perm _ := permissionSelect
  output _ := []
  flushes _ := 0
  currentCommand := some (lit "listinfo")
  authorizer := none
  db := ()

theorem epoch_inverse : TimeInverse epochHost.strftime epochStrptime := by
  intro time low high
  by_cases first : time = 1
  · subst first
    exact ⟨lit "1970-01-01T00:00:01+0000", ⟨rfl, by decide, by decide⟩, rfl⟩
  · have letter : 84 ∉ decimal time := notMem_decimal 84 (by decide) (by decide) time
    have other : decimal time ≠ lit "1970-01-01T00:00:01+0000" := by
      intro same
      exact letter (same ▸ by decide)
    refine ⟨decimal time, ⟨if_neg first, decimal_oneLine time, decimal_noNul time⟩, ?_⟩
    rw [epochStrptime, if_neg other, strtol_whole_decimal]

theorem epochRow_sound : SoundRow { texts := [7], lastPlayed := some 6 } epochRow where
  ints := by
    simp only [epochRow, List.forall_mem_cons]
    exact ⟨⟨by decide, by decide⟩, ⟨by decide, by decide⟩, ⟨by decide, by decide⟩,
      ⟨by decide, by decide⟩, ⟨by decide, by decide⟩, ⟨by decide, by decide⟩,
      ⟨by decide, by decide⟩, ⟨by decide, by decide⟩, List.forall_mem_nil _⟩
  texts := List.forall_mem_singleton.mpr ⟨lit "OK: a.ogg", rfl, by decide⟩
  lastPlayed := by
    rintro index ⟨⟩
    exact Or.inr ⟨by decide, by decide⟩
  tags := by
    rintro index ⟨⟩

theorem response_round_trip_epoch :
    ∃ after answer, handleListinfo epochHost 0 [lit "listinfo", lit "id=1"] epochStart
        = .ok (.ok, after) ∧
      after.output 0 = answer ∧
      mpdcronParseSongs epochStrptime { input := streamLines answer, error := none } []
        = .ok (true, [{ id := 1, playCount := 3, uri := some (lit "OK: a.ogg"), love := -2
                        rating := 5, karma := 50, lastPlayed := 1 }],
            { input := [], error := none }) := by
  have trips := (response_round_trip epochHost epochStrptime epoch_inverse).1
  have listinfo := trips _ (List.mem_cons_of_mem _ List.mem_cons_self)
  have prepared (allowed : Action → Bool) : epochSqlite.prepare allowed
      (selectText (lit "id, play_count, love, kill, rating, karma, last_played, uri") .song
        (lit "id=1")) () = .ok (.row epochRow () (.done ())) := by
    simp [epochSqlite]
  obtain ⟨after, answer, handled, output, parsed⟩ := listinfo 0 (lit "listinfo") (lit "id=1")
    (lit "listinfo") epochStart (.row epochRow () (.done ())) rfl (prepared _) rfl
    (List.forall_mem_singleton.mpr epochRow_sound)
  have read := parsed [] []
  rw [List.append_nil] at read
  exact ⟨after, answer, handled, output, read⟩

end Mpdcron.Eugene
