import Mpdcron.Eugene.Connection

/-! What the parse functions of `eugene-connection.c` make of lines that no server of this program
sends: each ends, at the first `OK` or with an error, unless an assertion fails. -/

namespace Mpdcron.Eugene

open CString
open Mpdcron.Stats

/-- The loop of `mpdcron_parse_changes`; `changes` is what was written so far. -/
def parseChanges : List Bytes → Int → Except Fault (Bool × Int × Connection)
  | [], changes => .ok (false, changes,
      { input := [], error := some ⟨errorEof, lit "EOF while trying to read a line"⟩ })
  | line :: input, changes =>
      match mpdcronParserFeed (upToNul line) with
      | .success => .ok (true, changes, { input := input, error := none })
      | .error server _ message =>
          .ok (false, changes, { input := input, error := some ⟨server, printed message⟩ })
      | .malformed => .ok (false, changes,
          { input := input
            error := some ⟨errorMalformed,
              lit "Malformed line `" ++ upToNul line ++ lit "' received from server"⟩ })
      | .pair key value =>
          if key = lit "changes" then parseChanges input (atoi value)
          else .ok (false, changes,
            { input := input
              error := some ⟨errorMalformed,
                lit "Received unexpected name/value pair `" ++ key ++ lit "'"⟩ })

def mpdcronParseChanges (conn : Connection) (changes : Int) :
    Except Fault (Bool × Int × Connection) :=
  parseChanges conn.input changes

/-! ### Answers -/

def IsOk (line : Bytes) : Prop := mpdcronParserFeed (upToNul line) = .success

/-- A parse function ends, with success at the first `OK` line or with an error that is set. -/
def Answered {α : Type} (input : List Bytes) : Except Fault (Bool × α × Connection) → Prop
  | .ok (true, _, conn) => ∃ pairs line, input = pairs ++ line :: conn.input ∧ IsOk line ∧
      ∀ pair ∈ pairs, ¬ IsOk pair
  | .ok (false, _, conn) => conn.error.isSome
  | .error _ => False

/-- Reading one more line first, which is not `OK`, changes nothing. -/
theorem Answered.cons {α : Type} {input : List Bytes}
    {result : Except Fault (Bool × α × Connection)} (answered : Answered input result)
    {line : Bytes} (isPair : ¬ IsOk line) : Answered (line :: input) result := by
  cases result with
  | error fault => exact answered
  | ok result =>
      rcases result with ⟨succeeded, values, conn⟩
      cases succeeded with
      | false => exact answered
      | true =>
          rcases answered with ⟨pairs, ok, split, isOk, others⟩
          refine ⟨line :: pairs, ok, by rw [split, List.cons_append], isOk, ?_⟩
          exact List.forall_mem_cons.mpr ⟨isPair, others⟩

theorem answered_success {α : Type} {line : Bytes} {input : List Bytes} {values : α}
    (isOk : IsOk line) :
    Answered (line :: input)
      (.ok (true, values, { input := input, error := none }) :
        Except Fault (Bool × α × Connection)) :=
  ⟨[], line, rfl, isOk, by simp⟩

theorem parseChanges_answered (input : List Bytes) : ∀ changes : Int,
    Answered input (parseChanges input changes) := by
  induction input with
  | nil =>
      intro changes
      rfl
  | cons line input ih =>
      intro changes
      rw [parseChanges]
      cases fed : mpdcronParserFeed (upToNul line) with
      | success => exact answered_success fed
      | error server position message => rfl
      | malformed => rfl
      | pair key value =>
          have isPair : ¬ IsOk line := by
            intro isOk
            cases fed.symm.trans isOk
          dsimp only
          by_cases changed : key = lit "changes"
          · rw [if_pos changed]
            exact (ih (atoi value)).cons isPair
          · rw [if_neg changed]
            rfl

/-! ### Items -/

section Items

variable {α : Type} (kind : ItemKind α)

/-- Once an item is being read, there is one to set a field of. -/
theorem parseItems_answered (input : List Bytes) : ∀ (item : α) (values : List α),
    Answered input (parseItems kind input (some item) values) := by
  induction input with
  | nil =>
      intro item values
      rfl
  | cons line input ih =>
      intro item values
      rw [parseItems]
      cases fed : mpdcronParserFeed (upToNul line) with
      | success => exact answered_success fed
      | error server position message => rfl
      | malformed => rfl
      | pair key value =>
          have isPair : ¬ IsOk line := by
            intro isOk
            cases fed.symm.trans isOk
          dsimp only
          by_cases isId : key = lit "id"
          · rw [if_pos isId]
            exact (ih _ _).cons isPair
          · rw [if_neg isId]
            cases kind.field key value with
            | none => rfl
            | some set => exact (ih _ _).cons isPair

/-- The line sets a field of an item. -/
def IsField (line : Bytes) : Prop :=
  ∃ key value, mpdcronParserFeed (upToNul line) = .pair key value ∧ key ≠ lit "id" ∧
    (kind.field key value).isSome

/-- The assertion fails if and only if the first line sets a field: no later one is without an
item. -/
theorem parseItems_answered_iff (input : List Bytes) (values : List α) :
    Answered input (parseItems kind input none values) ↔
      ∀ line ∈ input.head?, ¬ IsField kind line := by
  cases input with
  | nil => exact iff_of_true rfl (by simp)
  | cons line input =>
      rw [List.head?_cons, parseItems]
      simp only [Option.mem_some_iff, forall_eq']
      cases fed : mpdcronParserFeed (upToNul line) with
      | success => exact iff_of_true (answered_success fed) (by simp [IsField, fed])
      | error server position message => exact iff_of_true rfl (by simp [IsField, fed])
      | malformed => exact iff_of_true rfl (by simp [IsField, fed])
      | pair key value =>
          have isPair : ¬ IsOk line := by
            intro isOk
            cases fed.symm.trans isOk
          dsimp only
          by_cases isId : key = lit "id"
          · rw [if_pos isId]
            apply iff_of_true ((parseItems_answered kind input _ _).cons isPair)
            simp [IsField, fed, isId]
          · rw [if_neg isId]
            cases set : kind.field key value with
            | none => exact iff_of_true rfl (by simp [IsField, fed, set])
            | some update =>
                apply iff_of_false id
                simp [IsField, fed, isId, set]

end Items

/-- `mpdcron_parse_changes` survives any answer; the other four survive it exactly when it does
not begin with a field of an item. -/
theorem parsers_answered_iff (strptime : Bytes → Int) (conn : Connection)
    (songs : List MpdcronSong) (entities : List MpdcronEntity) (changes : Int) :
    Answered conn.input (mpdcronParseChanges conn changes) ∧
      (Answered conn.input (mpdcronParseSongs strptime conn songs) ↔
        ∀ line ∈ conn.input.head?, ¬ IsField (songKind strptime) line) ∧
      (Answered conn.input (mpdcronParseAlbums conn entities) ↔
        ∀ line ∈ conn.input.head?, ¬ IsField albumKind line) ∧
      (Answered conn.input (mpdcronParseArtists conn entities) ↔
        ∀ line ∈ conn.input.head?, ¬ IsField artistKind line) ∧
      (Answered conn.input (mpdcronParseGenres conn entities) ↔
        ∀ line ∈ conn.input.head?, ¬ IsField genreKind line) :=
  ⟨parseChanges_answered conn.input changes,
    parseItems_answered_iff (songKind strptime) conn.input songs,
    parseItems_answered_iff albumKind conn.input entities,
    parseItems_answered_iff artistKind conn.input entities,
    parseItems_answered_iff genreKind conn.input entities⟩

/-- A server that leaves out the `id` aborts the client. -/
theorem parsers_assert_love :
    mpdcronParseSongs (fun _ => 0) ⟨streamLines (lit "Love: 1\nOK\n"), none⟩ []
        = .error .assertion ∧
      ¬ Answered (streamLines (lit "Love: 1\nOK\n"))
        (mpdcronParseSongs (fun _ => 0) ⟨streamLines (lit "Love: 1\nOK\n"), none⟩ []) := by
  have aborted : mpdcronParseSongs (fun _ => 0) ⟨streamLines (lit "Love: 1\nOK\n"), none⟩ []
      = .error .assertion := by
    rfl
  rw [aborted]
  exact ⟨rfl, id⟩

end Mpdcron.Eugene
