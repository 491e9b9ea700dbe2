import Mpdcron.Lib.Delimited
import Mpdcron.Player.Song

/-! The titles of radio stations, which name the artist in front of a dash. -/

namespace Mpdcron.Player

open CString

/-- The dash between artist and title, spaced or not on each side. -/
def dash (before after : Bool) : Bytes :=
  (if before then [32] else []) ++ 45 :: (if after then [32] else [])

/-- The byte of the dash that is left in front of the title. -/
def leftOver (after : Bool) : UInt8 := if after then 32 else 45

/-- What may be in front of the dash, and behind it. -/
structure RadioParts (artist title : Bytes) : Prop where
  named : artist ≠ []
  undashed : (45 : UInt8) ∉ artist
  unspacedEnd : artist.getLast? ≠ some 32
  titled : title ≠ []
  unspacedStart : title.head? ≠ some 32

/-- There is a dash to split at, and not in front of everything. -/
def Dashed (title : Bytes) : Prop := 45 ∈ title ∧ title.head? ≠ some 45

theorem splitRadioTitle_none (title : Bytes) : splitRadioTitle title = none ↔ ¬Dashed title := by
  rw [splitRadioTitle, Dashed]
  by_cases first : title.head? = some 45
  · simp [first]
  · by_cases inside : 45 ∈ title <;> simp [first, inside]

theorem songCheckTags_radio (song : Song) (noArtist : song.artist = none) :
    songCheckTags song = song.title.bind splitRadioTitle := by
  rw [songCheckTags, noArtist]
  cases song.title <;> rfl

/-- The song is refused if and only if its title has no dash or starts with one. -/
theorem radio_refused (song : Song) (noArtist : song.artist = none) :
    songCheckTags song = none ↔ ∀ title, song.title = some title → ¬Dashed title := by
  rw [songCheckTags_radio song noArtist]
  cases song.title with
  | none => simp
  | some title => simp [splitRadioTitle_none]

section Split

variable {artist title : Bytes} (before after : Bool)

/-- What is in front of the dash, with a space or without. -/
theorem front_last (parts : RadioParts artist title) :
    (if (artist ++ if before then [32] else []).getLast? = some 32
      then (artist ++ if before then [32] else []).dropLast
      else artist ++ if before then [32] else []) = artist := by
  cases before with
  | true => simp
  | false =>
      rw [if_neg Bool.false_ne_true, List.append_nil, if_neg parts.unspacedEnd]

/-- The title starts with the last byte of the dash. -/
theorem title_first (parts : RadioParts artist title) :
    (if ((45 :: (if after then [32] else [])) ++ title)[1]? = some (32 : UInt8)
      then ((45 :: (if after then [32] else [])) ++ title).drop 1
      else (45 :: (if after then [32] else [])) ++ title) = leftOver after :: title := by
  cases after with
  | true => rfl
  | false =>
      have second : (45 :: title)[1]? ≠ some (32 : UInt8) := by
        rw [List.getElem?_cons_succ, ← List.head?_eq_getElem?]
        exact parts.unspacedStart
      exact if_neg second

theorem splitRadioTitle_dash (parts : RadioParts artist title) :
    splitRadioTitle (artist ++ dash before after ++ title)
      = some (artist, some (leftOver after :: title)) := by
  have shape : artist ++ dash before after ++ title
      = (artist ++ if before then [32] else []) ++
        45 :: ((if after then [32] else []) ++ title) := by
    simp only [dash, List.append_assoc, List.cons_append]
  have absent : (45 : UInt8) ∉ artist ++ if before then [32] else [] := by
    cases before <;> simp [parts.undashed]
  have first : (artist ++ dash before after ++ title).head? ≠ some 45 := by
    rcases List.exists_cons_of_ne_nil parts.named with ⟨byte, others, rfl⟩
    intro dashed
    exact parts.undashed (Option.some.inj dashed ▸ List.mem_cons_self)
  rw [splitRadioTitle, if_neg first, shape, if_neg (by simp), Delimited.takeWhile_front 45 _ _ absent,
    Delimited.dropWhile_front 45 _ _ absent]
  dsimp only
  rw [front_last before parts]
  exact congrArg (fun rest => some (artist, some rest)) (title_first after parts)

end Split

/-- The artist of a radio title is right, and its title never: the dash, or the space behind it, is
still in front. -/
theorem radioTitle_leftOver (song : Song) (noArtist : song.artist = none) :
    (songCheckTags song = none ↔ ∀ title, song.title = some title → ¬Dashed title) ∧
      ∀ artist title before after, RadioParts artist title →
        song.title = some (artist ++ dash before after ++ title) →
          songCheckTags song = some (artist, some (leftOver after :: title)) ∧
            songCheckTags song ≠ some (artist, some title) := by
  refine ⟨radio_refused song noArtist, ?_⟩
  intro artist title before after parts whole
  have split : songCheckTags song = some (artist, some (leftOver after :: title)) := by
    rw [songCheckTags_radio song noArtist, whole, Option.bind_some]
    exact splitRadioTitle_dash before after parts
  refine ⟨split, ?_⟩
  intro right
  rw [split, Option.some.injEq, Prod.mk.injEq, Option.some.injEq] at right
  exact List.cons_ne_self _ _ right.2

/-- A station that names its song like most do. -/
def radioSong : Song where
  uri := lit "http://localhost/"
  id := 1
  duration := 0
  artist := none
  title := some (lit "Can - Halleluwah")
  album := none
  track := none
  musicbrainzTrackid := none

theorem radioSong_parts : RadioParts (lit "Can") (lit "Halleluwah") :=
  ⟨by decide, by decide, by decide, by decide, by decide⟩

theorem radioTitle_leftOver_spaced :
    songCheckTags radioSong = some (lit "Can", some (32 :: lit "Halleluwah")) :=
  ((radioTitle_leftOver radioSong rfl).2 (lit "Can") (lit "Halleluwah") true true radioSong_parts
    rfl).1

/-- The title keeps the space behind the dash. -/
theorem radioSong_misread :
    ¬(radioSong.artist = none → RadioParts (lit "Can") (lit "Halleluwah") →
      radioSong.title = some (lit "Can" ++ lit " - " ++ lit "Halleluwah") →
        songCheckTags radioSong = some (lit "Can", some (lit "Halleluwah"))) := by
  intro right
  exact absurd (right rfl radioSong_parts rfl) (by decide)

end Mpdcron.Player
