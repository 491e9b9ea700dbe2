import Mpdcron.Player.Bookkeeping
import Mpdcron.Scrobbler.EachRun

/-! From the player events to the records that the scrobblers have submitted, in runs of the module
that never end. -/

namespace Mpdcron.AudioScrobbler

open CString Triple Filter Player

variable {checksum : Bytes → Bytes}

/-! ### What the player events push -/

section Pushes

variable {run : EndlessRun (systemStep checksum)} {index : Nat}

def Record.untimed (record : Record) : Record := { record with time := none }

/-- The record that the call asks to be submitted, without the time. -/
def submission : AsCall → List Record
  | .nowPlaying _ _ _ _ _ _ => []
  | .songchange file artist track album number mbid length =>
      (songchangeRecord file artist track album number mbid length none []).toList.map
        Record.untimed

end Pushes

/-! ### Every song -/

end Mpdcron.AudioScrobbler
