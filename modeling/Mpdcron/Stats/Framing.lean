import Mpdcron.Lib.Blocks
import Mpdcron.Stats.Process

/-! The shape of the answers: which rows a listing can print as lines of pairs, and when a
request is answered by one block of lines. -/

namespace Mpdcron.Stats

open CString
open Blocks

/-- A line of the form `key: value`. -/
structure PairLine (line : Bytes) : Prop where
  pair : ∃ key value, key ≠ [] ∧ line = key ++ lit ": " ++ value
  oneLine : newline ∉ line
  notOk : line ≠ lit "OK"
  notAck : ¬ lit "ACK" <+: line

/-- The line that ends an answer. -/
structure FinalLine (line : Bytes) : Prop where
  known : line = lit "OK" ∨ lit "ACK [" <+: line
  oneLine : newline ∉ line

/-- An answer, as the lines of it. -/
def Answer (lines : List Bytes) : Prop := Block PairLine FinalLine lines

theorem pairLine_notFinal (line : Bytes) (pair : PairLine line) : ¬ FinalLine line := by
  intro final
  rcases final.known with isOk | isAck
  · exact pair.notOk isOk
  · exact pair.notAck (List.IsPrefix.trans (by decide) isAck)

theorem Answer.oneLine (lines : List Bytes) (answer : Answer lines) :
    ∀ line ∈ lines, newline ∉ line := by
  rcases answer with ⟨front, final, rfl, pairs, ends⟩
  intro line inAnswer
  rcases List.mem_append.mp inAnswer with inFront | isFinal
  · exact (pairs line inFront).oneLine
  · rw [List.mem_singleton.mp isFinal]
    exact ends.oneLine

/-- Answers that were sent one after the other come apart in one way. -/
theorem answers_unique (first second : List (List Bytes)) (firstAnswers : ∀ lines ∈ first, Answer lines)
    (secondAnswers : ∀ lines ∈ second, Answer lines)
    (same : sent first.flatten = sent second.flatten) : first = second := by
  have plain (answers : List (List Bytes)) (all : ∀ lines ∈ answers, Answer lines) :
      ∀ line ∈ answers.flatten, newline ∉ line := by
    intro line inAnswers
    rcases List.mem_flatten.mp inAnswers with ⟨lines, inList, inLines⟩
    exact (all lines inList).oneLine lines line inLines
  have lines : first.flatten = second.flatten := by
    rw [sent_eq_iff _ _ (plain first firstAnswers), flatMap_plain _ (plain second secondAnswers)]
      at same
    exact same
  exact (block_prefixFree pairLine_notFinal).flatten_injective _
    (fun lines block => block.ne_nil lines) first second firstAnswers secondAnswers lines

theorem ackLine_plain (code : Int) (command message : Bytes) (plain : newline ∉ command) :
    newline ∉ ackLine code command message ↔ newline ∉ message := by
  have number := decimal_oneLine code
  have fixed : newline ∉ lit "ACK [" ∧ newline ∉ lit "] \x7b" ∧ newline ∉ lit "\x7d " := by decide
  simp [ackLine, number, fixed, plain]

theorem ackLine_prefix (code : Int) (command message : Bytes) :
    ∃ rest, ackLine code command message = lit "ACK [" ++ rest :=
  ⟨decimal code ++ lit "] \x7b" ++ command ++ lit "\x7d " ++ message, by simp [ackLine]⟩

/-- A text that is printed as lines of pairs. -/
def LineFramed (text : Bytes) : Prop := ∀ piece ∈ text.splitOn newline, PairLine piece

/-- The text of a key, as the handlers have them. -/
def IsKey (key : Bytes) : Prop := key ≠ [] ∧ newline ∉ key ∧ ¬ lit "ACK" <+: key ++ lit ": "

instance (key : Bytes) : Decidable (IsKey key) := instDecidableAnd

theorem IsKey.pairLine (key value : Bytes) (isKey : IsKey key) (oneLine : newline ∉ value) :
    PairLine (key ++ lit ": " ++ value) := by
  rcases isKey with ⟨nonempty, plain, notAck⟩
  have long : 3 ≤ (key ++ lit ": ").length := by
    have one := List.length_pos_iff.mpr nonempty
    rw [List.length_append, show (lit ": ").length = 2 by decide]
    omega
  refine ⟨⟨key, value, nonempty, rfl⟩, ?_, ?_, ?_⟩
  · have separator : newline ∉ lit ": " := by decide
    simp [plain, separator, oneLine]
  · intro same
    have lengths := congrArg List.length same
    rw [List.length_append, show (lit "OK").length = 2 by decide] at lengths
    omega
  · intro starts
    exact notAck (List.prefix_of_prefix_length_le starts (List.prefix_append _ _) long)

/-- Texts that are printed as lines of pairs. -/
def LinesFramed (texts : List Bytes) : Prop := ∀ text ∈ texts, LineFramed text

theorem linesFramed_append (first second : List Bytes) :
    LinesFramed (first ++ second) ↔ LinesFramed first ∧ LinesFramed second :=
  List.forall_mem_append

theorem linesFramed_cons (text : Bytes) (texts : List Bytes) :
    LinesFramed (text :: texts) ↔ LineFramed text ∧ LinesFramed texts :=
  List.forall_mem_cons

theorem linesFramed_nil : LinesFramed [] := List.forall_mem_nil _

/-- What a printed text holds after its first newline is lines of pairs. -/
def TextFramed (text : Option Bytes) : Prop :=
  ∀ line ∈ ((printed text).splitOn newline).tail, PairLine line

theorem numberLine_framed (key : String) (isKey : IsKey (lit key)) (value : Int) :
    LineFramed (numberLine key value) := by
  have pair := isKey.pairLine _ _ (decimal_oneLine value)
  rw [LineFramed, numberLine, List.splitOn_eq_singleton pair.oneLine]
  simpa using pair

theorem textLine_framed (key : String) (isKey : IsKey (lit key)) (value : Option Bytes) :
    LineFramed (textLine key value) ↔ TextFramed value := by
  have separator : newline ∉ lit ": " := by decide
  have plain : newline ∉ lit key ++ lit ": " := by simp [isKey.2.1, separator]
  have pieces := notMem_splitOn newline (printed value)
  rw [LineFramed, textLine, splitOn_append newline _ _ plain, TextFramed]
  cases split : (printed value).splitOn newline with
  | nil => exact absurd split (List.splitOn_ne_nil newline (printed value))
  | cons first rest =>
      rw [split, List.forall_mem_cons] at pieces
      rw [List.modifyHead_cons, List.forall_mem_cons, List.tail_cons]
      exact and_iff_right (isKey.pairLine _ _ pieces.1)

theorem songLines_framed (song : DbSongData) : LinesFramed (songLines song) ↔ TextFramed song.uri := by
  have id := numberLine_framed "id" (by decide) song.id
  rw [songLines, linesFramed_cons, linesFramed_cons, textLine_framed "file" (by decide)]
  exact ⟨fun framed => framed.2.1, fun framed => ⟨id, framed, linesFramed_nil⟩⟩

theorem genericLines_framed (key : String) (isKey : IsKey (lit key)) (data : DbGenericData) :
    LinesFramed (genericLines key data) ↔ TextFramed data.name := by
  have id := numberLine_framed "id" (by decide) data.id
  rw [genericLines, linesFramed_cons, linesFramed_cons, textLine_framed key isKey]
  exact ⟨fun framed => framed.2.1, fun framed => ⟨id, framed, linesFramed_nil⟩⟩

theorem albumLines_framed (data : DbGenericData) :
    LinesFramed (albumLines data) ↔ TextFramed data.name ∧ TextFramed data.artist := by
  have id := numberLine_framed "id" (by decide) data.id
  rw [albumLines, linesFramed_cons, linesFramed_cons, linesFramed_cons,
    textLine_framed "Album" (by decide), textLine_framed "Artist" (by decide)]
  exact ⟨fun framed => ⟨framed.2.1, framed.2.2.1⟩,
    fun framed => ⟨id, framed.1, framed.2, linesFramed_nil⟩⟩

theorem countLines_framed (data : DbGenericData) : LinesFramed (countLines data) := by
  simp only [countLines, linesFramed_cons]
  exact ⟨numberLine_framed _ (by decide) _, numberLine_framed _ (by decide) _,
    numberLine_framed _ (by decide) _, numberLine_framed _ (by decide) _, linesFramed_nil⟩

theorem songCountLines_framed (song : DbSongData) : LinesFramed (songCountLines song) := by
  simp only [songCountLines, linesFramed_cons]
  exact ⟨numberLine_framed _ (by decide) _, numberLine_framed _ (by decide) _,
    numberLine_framed _ (by decide) _, numberLine_framed _ (by decide) _,
    numberLine_framed _ (by decide) _, linesFramed_nil⟩

/-- A computation that prints lines of pairs. -/
def Prints (result : Except Fault (List Bytes)) : Prop :=
  ∃ texts, result = .ok texts ∧ LinesFramed texts

theorem prints_ok (texts : List Bytes) : Prints (.ok texts) ↔ LinesFramed texts := by
  simp [Prints]

theorem prints_append (texts : List Bytes) (result : Except Fault (List Bytes)) :
    Prints (do return texts ++ (← result)) ↔ LinesFramed texts ∧ Prints result := by
  cases result with
  | error fault => simp [Prints, bind, Except.bind]
  | ok more =>
      calc Prints (.ok (texts ++ more))
        _ ↔ LinesFramed (texts ++ more) := prints_ok _
        _ ↔ LinesFramed texts ∧ LinesFramed more := linesFramed_append texts more
        _ ↔ LinesFramed texts ∧ Prints (.ok more) := and_congr_right' (prints_ok more).symm

theorem prints_mapM (lines : Columns → Except Fault (List Bytes)) (rows : List Columns) :
    Prints ((rows.mapM lines).map List.flatten) ↔ ∀ row ∈ rows, Prints (lines row) := by
  induction rows with
  | nil => simp [Prints, Except.map, pure, Except.pure, linesFramed_nil]
  | cons row rows ih =>
      rw [List.mapM_cons, List.forall_mem_cons, ← ih]
      cases lines row with
      | error fault => simp [Prints, Except.map, bind, Except.bind]
      | ok texts =>
          cases rows.mapM lines with
          | error fault => simp [Prints, Except.map, bind, Except.bind]
          | ok more =>
              calc Prints (.ok (texts ++ more.flatten))
                _ ↔ LinesFramed (texts ++ more.flatten) := prints_ok _
                _ ↔ LinesFramed texts ∧ LinesFramed more.flatten :=
                  linesFramed_append texts more.flatten
                _ ↔ Prints (.ok texts) ∧ Prints (.ok more.flatten) :=
                  and_congr (prints_ok texts).symm (prints_ok more.flatten).symm

theorem lastPlayedLines_prints (strftime : Int → Option Bytes)
    (oneLine : ∀ time text, strftime time = some text → newline ∉ text) (lastPlayed : Int) :
    Prints (lastPlayedLines strftime lastPlayed)
      ↔ lastPlayed = 0 ∨ (strftime lastPlayed).isSome = true := by
  rw [lastPlayedLines]
  by_cases never : lastPlayed = 0
  · rw [if_pos never, prints_ok]
    exact iff_of_true linesFramed_nil (Or.inl never)
  · rw [if_neg never]
    cases time : strftime lastPlayed with
    | none => simp [Prints, never]
    | some text =>
        have rest : TextFramed (some text) := by
          simp [TextFramed, printed, List.splitOn_eq_singleton (oneLine _ text time)]
        have line := (textLine_framed "Last Played" (by decide) (some text)).mpr rest
        dsimp only
        rw [prints_ok, linesFramed_cons]
        exact iff_of_true ⟨line, linesFramed_nil⟩ (Or.inr rfl)

/-- A tag has no colon, so a newline in it cannot be followed by a pair. -/
theorem tag_framed (tag : Bytes) (plain : colon ∉ tag) :
    LineFramed (textLine "Tag" (some tag)) ↔ newline ∉ tag := by
  rw [textLine_framed "Tag" (by decide)]
  constructor
  · intro framed present
    have several : (tag.splitOn newline).tail ≠ [] := by
      intro single
      cases split : tag.splitOn newline with
      | nil => exact absurd split (List.splitOn_ne_nil newline tag)
      | cons first rest =>
          rw [split, List.tail_cons] at single
          exact splitOn_single newline tag first (by rw [split, single]) present
    rcases List.exists_cons_of_ne_nil several with ⟨line, rest, split⟩
    have inTail : line ∈ (tag.splitOn newline).tail := by simp [split]
    have pair := framed line inTail
    rcases pair.pair with ⟨key, value, -, rfl⟩
    have inLine : colon ∈ key ++ lit ": " ++ value := by simp [lit, colon]
    exact plain ((mem_splitOn newline colon (by decide) tag).mp
      ⟨_, List.mem_of_mem_tail inTail, inLine⟩)
  · intro oneLine
    simp [TextFramed, printed, List.splitOn_eq_singleton oneLine]

/-- A text that is not NULL and holds no newline. -/
def SingleLine (value : Option Bytes) : Prop := ∃ text, value = some text ∧ newline ∉ text

theorem gStrsplit_filter (text : Bytes) :
    (gStrsplit text).filter (· ≠ []) = (text.splitOn colon).filter (· ≠ []) := by
  rw [gStrsplit]
  by_cases empty : text = []
  · subst empty
    rfl
  · rw [if_neg empty]

theorem tagLines_prints (tags : Option Bytes) :
    Prints (tagLines (tags.map gStrsplit)) ↔ SingleLine tags := by
  cases tags with
  | none => simp [Prints, tagLines, SingleLine]
  | some text =>
      have colons := notMem_splitOn colon text
      have pieces := mem_splitOn colon newline (by decide) text
      have framed : LinesFramed (((text.splitOn colon).filter (· ≠ [])).map
          fun tag => textLine "Tag" (some tag)) ↔ newline ∉ text := by
        rw [← pieces]
        constructor
        · rintro framed ⟨piece, inText, present⟩
          have kept : piece ∈ (text.splitOn colon).filter (· ≠ []) := by
            simpa [inText] using List.ne_nil_of_mem present
          have line := framed _ (List.mem_map_of_mem kept)
          exact (tag_framed piece (colons piece inText)).mp line present
        · intro absent line inLines
          rcases List.mem_map.mp inLines with ⟨piece, kept, rfl⟩
          have inText := (List.mem_filter.mp kept).1
          exact (tag_framed piece (colons piece inText)).mpr fun present =>
            absent ⟨piece, inText, present⟩
      rw [Option.map_some, tagLines, prints_ok, gStrsplit_filter, framed, SingleLine]
      simp

/-- The columns that a listing prints: texts, the time and the tags. -/
structure Shown where
  texts : List Nat
  lastPlayed : Option Nat := none
  tags : Option Nat := none

def shownColumns : List (Bytes × Shown) :=
  [(lit "list", { texts := [1] }),
    (lit "list_album", { texts := [1, 2] }),
    (lit "list_artist", { texts := [1] }),
    (lit "list_genre", { texts := [1] }),
    (lit "listinfo", { texts := [7], lastPlayed := some 6 }),
    (lit "listinfo_album", { texts := [2, 3] }),
    (lit "listinfo_artist", { texts := [2] }),
    (lit "listinfo_genre", { texts := [2] }),
    (lit "listtags", { texts := [1], tags := some 2 }),
    (lit "listtags_album", { texts := [1, 2], tags := some 3 }),
    (lit "listtags_artist", { texts := [1], tags := some 2 }),
    (lit "listtags_genre", { texts := [1], tags := some 2 })]

/-- A row that can be printed as lines of pairs. -/
structure Shown.Framed (strftime : Int → Option Bytes) (shown : Shown) (row : Columns) : Prop where
  texts : ∀ index ∈ shown.texts, TextFramed (row.text index)
  lastPlayed : ∀ index ∈ shown.lastPlayed,
    row.int64 index = 0 ∨ (strftime (row.int64 index)).isSome = true
  tags : ∀ index ∈ shown.tags, SingleLine (row.text index)

theorem Shown.framed_iff (strftime : Int → Option Bytes) (shown : Shown) (row : Columns) :
    shown.Framed strftime row ↔ (∀ index ∈ shown.texts, TextFramed (row.text index)) ∧
      (∀ index ∈ shown.lastPlayed,
        row.int64 index = 0 ∨ (strftime (row.int64 index)).isSome = true) ∧
      ∀ index ∈ shown.tags, SingleLine (row.text index) :=
  ⟨fun framed => ⟨framed.texts, framed.lastPlayed, framed.tags⟩,
    fun ⟨texts, lastPlayed, tags⟩ => ⟨texts, lastPlayed, tags⟩⟩

section Listings

variable {Db : Type} (host : Host Db)

/-- What `shownColumns` says about a listing is what the listing prints. -/
def PrintsShown (cmd : Bytes) (listing : Listing) : Prop :=
  ∃ shown, shownColumns.lookup cmd = some shown ∧ (listings host).lookup cmd = some listing ∧
    ∀ row, Prints (listing.rowLines row) ↔ shown.Framed host.strftime row

theorem listings_shown
    (oneLine : ∀ time text, host.strftime time = some text → newline ∉ text) :
    ∀ entry ∈ listings host, PrintsShown host entry.1 entry.2 := by
  have time := lastPlayedLines_prints host.strftime oneLine
  have uri := songLines_framed
  have album := albumLines_framed
  have artist := genericLines_framed "Artist" (by decide)
  have genre := genericLines_framed "Genre" (by decide)
  simp only [listings, List.forall_mem_cons]
  refine ⟨⟨_, rfl, rfl, fun row => ?_⟩, ⟨_, rfl, rfl, fun row => ?_⟩, ⟨_, rfl, rfl, fun row => ?_⟩,
    ⟨_, rfl, rfl, fun row => ?_⟩, ⟨_, rfl, rfl, fun row => ?_⟩, ⟨_, rfl, rfl, fun row => ?_⟩,
    ⟨_, rfl, rfl, fun row => ?_⟩, ⟨_, rfl, rfl, fun row => ?_⟩, ⟨_, rfl, rfl, fun row => ?_⟩,
    ⟨_, rfl, rfl, fun row => ?_⟩, ⟨_, rfl, rfl, fun row => ?_⟩, ⟨_, rfl, rfl, fun row => ?_⟩,
    List.forall_mem_nil _⟩
  all_goals simp only [prints_ok, prints_append, linesFramed_append, uri, album, artist, genre,
    countLines_framed, songCountLines_framed, time, Shown.framed_iff, readListSong, readListAlbum,
    readListGeneric, readListinfoSong, readListinfoAlbum, readListinfoGeneric, readTagsSong,
    readTagsAlbum, readTagsGeneric, tagLines_prints]
  all_goals simp

end Listings

end Mpdcron.Stats
