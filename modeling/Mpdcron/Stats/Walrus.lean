import Mpdcron.Stats.PlayCounts

/-! `run_update` of `walrus-main.c`: the songs of the music directory go into the database
without a play. -/

namespace Mpdcron.Stats

open CString Player Script

/-- The call `db_process(song, false, -1, &error)` of walrus and of eugene's `load_current_song`. -/
def walrusCall (now : Int) (song : TaggedSong) : ProcessCall :=
  { song := song, increment := false, percentPlayed := -1, now := now }

end Mpdcron.Stats
