import Mpdcron.Lib.CString

/-! What the player modules ask of a song: its libmpdclient fields and `song_check_tags` of
`utils.h`. -/

namespace Mpdcron.Player

open CString

/-- The first value of each tag the modules read; `none` is NULL. -/
structure Song where
  uri : Bytes
  id : UInt32
  duration : UInt32
  artist : Option Bytes
  title : Option Bytes
  album : Option Bytes
  track : Option Bytes
  musicbrainzTrackid : Option Bytes
  deriving DecidableEq, Repr

/-- The conversion of an `unsigned` to an `int`. -/
def toInt (value : UInt32) : Int := wrapInt value.toNat

/-- The radio case of `song_check_tags`: the pieces around the first dash of the title. -/
def splitRadioTitle (title : Bytes) : Option (Bytes × Option Bytes) :=
  if title.head? = some 45 then none
  else if 45 ∉ title then none
  else
    let before := title.takeWhile (· ≠ 45)
    let rest := title.dropWhile (· ≠ 45)
    let artist := if before.getLast? = some 32 then before.dropLast else before
    -- the pointer still stands on the dash, or behind it on a space
    let title := if rest[1]? = some (32 : UInt8) then rest.drop 1 else rest
    some (artist, some title)

/-- Artist and title where `song_check_tags` returns true. -/
def songCheckTags (song : Song) : Option (Bytes × Option Bytes) :=
  match song.artist, song.title with
  | none, none => none
  | none, some title => splitRadioTitle title
  | some artist, title => some (artist, title)

/-- `!!strstr(uri, "://")` -/
def isRemoteUri (uri : Bytes) : Bool := lit "://" <:+: uri

/-- `played_long_enough`, the same in both modules. -/
def playedLongEnough (elapsed length : Int) : Bool :=
  elapsed > 240 ∨ (length ≥ 30 ∧ elapsed > length.tdiv 2)

end Mpdcron.Player
