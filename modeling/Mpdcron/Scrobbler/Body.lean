import Mathlib.Data.List.Nodup
import Mpdcron.Lib.Decimal
import Mpdcron.Scrobbler.Invariant

/-! The body of a submission, decoded: the session and nine variables for each song of the
batch. -/

namespace Mpdcron.AudioScrobbler

open CString PercentEncoding

theorem httpClientUriEscape_encode (src : Bytes) :
    httpClientUriEscape src = encode isUnreserved src := rfl

theorem isUnreserved_separates : Separates isUnreserved := ⟨by decide, by decide⟩

/-- A variable of the body. -/
def bodyPair (pair : Bytes × Bytes) : Bytes := ampersand :: pairText isUnreserved pair

def indexedKey (key : Bytes) (index : Nat) : Bytes := key ++ lit "[" ++ decimal index ++ lit "]"

theorem addVar_pair (s key : Bytes) (val : Option Bytes) :
    addVar s key val = s ++ bodyPair (key, val.getD []) := by
  cases val with
  | none => simp [addVar, addVarInternal, bodyPair, pairText, ampersand, equals, encode, lit]
  | some val =>
      simp [addVar, addVarInternal, bodyPair, pairText, ampersand, equals, lit,
        httpClientUriEscape_encode]

theorem addVarI_pair (s key : Bytes) (index : Nat) (val : Option Bytes) :
    addVarI s key index val = s ++ bodyPair (indexedKey key index, val.getD []) := by
  cases val with
  | none =>
      simp [addVarI, addVarInternal, bodyPair, pairText, ampersand, equals, encode, lit, indexedKey]
  | some val =>
      simp [addVarI, addVarInternal, bodyPair, pairText, ampersand, equals, lit, indexedKey,
        httpClientUriEscape_encode]

/-- What the body says of a song: its fields, NULL as the empty text. -/
def songFields (index : Nat) (song : Record) : List (Bytes × Bytes) :=
  [ (lit "a", song.artist.getD []),
    (lit "t", song.track.getD []),
    (lit "l", decimal song.length),
    (lit "i", song.time.getD []),
    (lit "o", song.source.getD []),
    (lit "r", []),
    (lit "b", song.album.getD []),
    (lit "n", song.number.getD []),
    (lit "m", song.mbid.getD []) ].map fun field => (indexedKey field.1 index, field.2)

/-- What the body says of a batch. -/
def batchFields (session : Bytes) (songs : List Record) : List (Bytes × Bytes) :=
  (lit "s", session) :: songs.zipIdx.flatMap fun song => songFields song.2 song.1

theorem addSong_fields (postData : Bytes) (index : Nat) (song : Record) :
    addSong postData index song = postData ++ (songFields index song).flatMap bodyPair := by
  simp only [addSong, addVarI_pair, songFields, List.map_cons, List.map_nil, List.flatMap_cons,
    List.flatMap_nil, List.append_nil, List.append_assoc]
  rfl

theorem foldl_addSong (songs : List (Record × Nat)) : ∀ postData : Bytes,
    songs.foldl (fun postData song => addSong postData song.2 song.1) postData
      = postData ++ (songs.flatMap fun song => songFields song.2 song.1).flatMap bodyPair := by
  induction songs with
  | nil => simp
  | cons song songs ih =>
      intro postData
      rw [List.foldl_cons, ih, addSong_fields, List.flatMap_cons, List.flatMap_append,
        List.append_assoc]

theorem batchBody_fields (session : Bytes) (songs : List Record) :
    batchBody (some session) songs = (batchFields session songs).flatMap bodyPair := by
  rw [batchBody, foldl_addSong, addVar_pair, batchFields, List.flatMap_cons, List.nil_append]
  rfl

/-! ### The keys -/

def songLetters : Bytes := [97, 116, 108, 105, 111, 114, 98, 110, 109]

theorem songFields_keys (index : Nat) (song : Record) :
    (songFields index song).map Prod.fst = songLetters.map (indexedKey [·] index) := rfl

theorem notMem_indexedKey (ch letter : UInt8) (index : Nat) (other : letter ≠ ch)
    (notBracket : ch ∉ [91, 93]) (notDigit : isDigit ch = false) (notMinus : ch ≠ 45) :
    ch ∉ indexedKey [letter] index := by
  rw [indexedKey, List.mem_append, List.mem_append, List.mem_append]
  rintro (((inLetter | opening) | inside) | closing)
  · exact other (List.mem_singleton.mp inLetter).symm
  · exact notBracket (List.mem_singleton.mp opening ▸ by decide)
  · exact notMem_decimal ch notDigit notMinus index inside
  · exact notBracket (List.mem_singleton.mp closing ▸ by decide)

theorem indexedKey_isKey (letter : UInt8) (index : Nat) (plain : letter ≠ equals)
    (single : letter ≠ ampersand) : IsKey (indexedKey [letter] index) := by
  constructor
  · exact notMem_indexedKey equals letter index plain (by decide) (by decide) (by decide)
  · exact notMem_indexedKey ampersand letter index single (by decide) (by decide) (by decide)

theorem batchFields_isKey (session : Bytes) (songs : List Record) :
    ∀ field ∈ batchFields session songs, IsKey field.1 := by
  intro field member
  rcases List.mem_cons.mp member with rfl | later
  · have plain : IsKey (lit "s") := ⟨by decide, by decide⟩
    exact plain
  · rcases List.mem_flatMap.mp later with ⟨song, -, inSong⟩
    have key := List.mem_map_of_mem (f := Prod.fst) inSong
    rw [songFields_keys] at key
    rcases List.mem_map.mp key with ⟨letter, isLetter, same⟩
    have apart : ∀ letter ∈ songLetters, letter ≠ equals ∧ letter ≠ ampersand := by decide +kernel
    rw [← same]
    exact indexedKey_isKey letter song.2 (apart letter isLetter).1 (apart letter isLetter).2

theorem indexedKey_inj {first second : UInt8} {index other : Nat}
    (same : indexedKey [first] index = indexedKey [second] other) :
    first = second ∧ index = other := by
  have whole : first :: 91 :: (decimalNat index ++ [93])
      = second :: 91 :: (decimalNat other ++ [93]) := same
  rw [List.cons.injEq, List.cons.injEq] at whole
  have numbers := List.append_cancel_right whole.2.2
  refine ⟨whole.1, ?_⟩
  calc
    index = digitsValue (decimalNat index) := (digitsValue_decimalNat index).symm
    _ = digitsValue (decimalNat other) := by rw [numbers]
    _ = other := digitsValue_decimalNat other

theorem songKeys_nodup (index : Nat) : (songLetters.map (indexedKey [·] index)).Nodup := by
  have letters : songLetters.Nodup := by decide
  exact List.Nodup.map (fun first second same => (indexedKey_inj same).1) letters

theorem batchKeys_nodup (session : Bytes) (songs : List Record) :
    ((batchFields session songs).map Prod.fst).Nodup := by
  rw [batchFields, List.map_cons, List.map_flatMap, List.nodup_cons, List.nodup_flatMap]
  refine ⟨?_, ?_, ?_⟩
  · intro member
    rcases List.mem_flatMap.mp member with ⟨song, -, inSong⟩
    rw [songFields_keys] at inSong
    rcases List.mem_map.mp inSong with ⟨letter, -, same⟩
    have size := congrArg List.length same
    simp [indexedKey, lit] at size
  · intro song _
    rw [songFields_keys]
    exact songKeys_nodup song.2
  · have indexes : (songs.zipIdx.map Prod.snd).Nodup := by
      rw [List.zipIdx_map_snd]
      exact List.nodup_range'
    apply (List.pairwise_map.mp indexes).imp
    intro song other apart key inFirst inSecond
    dsimp only at inFirst inSecond
    rw [songFields_keys] at inFirst inSecond
    rcases List.mem_map.mp inFirst with ⟨letter, -, rfl⟩
    rcases List.mem_map.mp inSecond with ⟨second, -, same⟩
    exact apart (indexedKey_inj same).2.symm

/-! ### The body decoded -/

/-- The body of `scrobbler_submit` decodes to the session and the batch, with no key twice. -/
theorem batchBody_decodes (session : Bytes) (songs : List Record) :
    ∃ text, batchBody (some session) songs = ampersand :: text ∧
      decodePairs text = batchFields session songs := by
  have keys := batchFields_isKey session songs
  rw [batchBody_fields]
  refine ⟨_, rfl, ?_⟩
  exact decodePairs_texts isUnreserved_separates _ _ keys

theorem scrobblerSubmit_decodes (http : HttpRequest → World → Outcome) (world : World)
    (session : Bytes) (state : world.scrobbler.state = .ready)
    (unarmed : world.scrobbler.submitSourceId = 0) (nonempty : world.scrobbler.queue ≠ [])
    (given : world.scrobbler.session = some session) :
    ∃ text, scrobblerSubmit http world = http
        ⟨world.scrobbler.submitUrl, some (ampersand :: text), .scrobblerSubmitHandler,
          .scrobblerSubmit⟩
        (world.update
          { world.scrobbler with
            state := .submitting
            pending := min maxSubmitCount world.scrobbler.queue.length }) ∧
      decodePairs text = batchFields session
        (world.scrobbler.queue.take (min maxSubmitCount world.scrobbler.queue.length)) ∧
      ((decodePairs text).map Prod.fst).Nodup := by
  rcases batchBody_decodes session
    (world.scrobbler.queue.take (min maxSubmitCount world.scrobbler.queue.length)) with
    ⟨text, body, decoded⟩
  refine ⟨text, ?_, decoded, ?_⟩
  · rw [scrobblerSubmit, assert_bind state, assert_bind unarmed, if_neg nonempty]
    simp only [World.update, addSongs_batch, given]
    rw [body]
  · rw [decoded]
    exact batchKeys_nodup session _

theorem scrobblerSubmit_decodes_reserved :
    ∃ text, scrobblerSubmit (httpClientRequest [])
        { scrobbler :=
            { scrobblerNew ⟨[], [], [], none⟩ with
              state := .ready
              session := some (lit "s&1=")
              queue := [{ recordClear with artist := some (lit "A&B=[0]%26"), length := -3 }] }
          sources := [], nextId := 1, requests := [], removed := [] }
        = httpClientRequest []
          ⟨none, some (ampersand :: text), .scrobblerSubmitHandler, .scrobblerSubmit⟩
          { scrobbler :=
              { scrobblerNew ⟨[], [], [], none⟩ with
                state := .submitting
                session := some (lit "s&1=")
                queue := [{ recordClear with artist := some (lit "A&B=[0]%26"), length := -3 }]
                pending := 1 }
            sources := [], nextId := 1, requests := [], removed := [] } ∧
      decodePairs text = batchFields (lit "s&1=")
        [{ recordClear with artist := some (lit "A&B=[0]%26"), length := -3 }] ∧
      ((decodePairs text).map Prod.fst).Nodup :=
  scrobblerSubmit_decodes (httpClientRequest []) _ (lit "s&1=") rfl rfl (List.cons_ne_nil _ _) rfl

end Mpdcron.AudioScrobbler
