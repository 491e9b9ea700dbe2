import Mpdcron.Lib.CString

/-! `struct record` and `scrobbler-record.c`. A NULL pointer is `none`. -/

namespace Mpdcron.AudioScrobbler

open CString

structure Record where
  artist : Option Bytes
  track : Option Bytes
  album : Option Bytes
  number : Option Bytes
  mbid : Option Bytes
  time : Option Bytes
  length : Int
  source : Option Bytes
  deriving DecidableEq, Repr

def recordClear : Record :=
  { artist := none, track := none, album := none, number := none, mbid := none
    time := none, length := 0, source := some (lit "P") }

/-- A record overwritten by `memset(.., 0, ..)`. -/
def recordZero : Record := { recordClear with source := none }

def Record.isDefined (record : Record) : Bool := record.artist.isSome && record.track.isSome

@[simp] theorem recordClear_isDefined : recordClear.isDefined = false := rfl

@[simp] theorem recordZero_isDefined : recordZero.isDefined = false := rfl

end Mpdcron.AudioScrobbler
