import Mpdcron.Player.Bookkeeping
import Mpdcron.Stats.PlayCounts

/-! From the player events to the database: what the stats module has been listening to is what its
counters count. -/

namespace Mpdcron.Player

variable {ε : Type} (module : PlayerModule ε)

/-- What the module does at the end of a play. -/
def Play.ending (play : Play) : List ε := module.songEnded play.ended play.elapsed

variable {events : List PlayerEvent} {calls : List Call} {plays : List Play}
  {current : Option (Nat × Song)}

/-- A module that does nothing when a song starts acts at the end of each play. -/
theorem Bookkept.effects (bookkept : Bookkept events calls plays current)
    (quiet : ∀ song, module.songStarted song = []) :
    module.effects calls = plays.flatMap (Play.ending module) := by
  have started : (module.effects
      (current.map fun started => Call.songStarted started.1 started.2).toList) = [] := by
    cases current with
    | none => rfl
    | some started =>
        have silent := quiet started.2
        simp [PlayerModule.effects, silent]
  have whole (play : Play) : module.effects play.calls = play.ending module := by
    have silent := quiet play.song
    simp [PlayerModule.effects, Play.calls, Play.ending, silent]
  have spread : module.effects (plays.flatMap Play.calls)
      = plays.flatMap fun play => module.effects play.calls := List.flatMap_assoc
  calc
    module.effects calls
        = module.effects (plays.flatMap Play.calls)
            ++ module.effects
              (current.map fun started => Call.songStarted started.1 started.2).toList := by
          rw [bookkept.listed, PlayerModule.effects, List.flatMap_append]
          rfl
    _ = plays.flatMap (Play.ending module) := by
          rw [started, List.append_nil, spread]
          simp only [whole]

/-- Whether the play is long enough to count. -/
def Play.long (play : Play) : Bool :=
  playedLongEnough (seconds play.elapsed) (toInt play.ended.duration)

end Mpdcron.Player

namespace Mpdcron.Stats

open CString Player Script Triple

/-- What `song_ended` asks of the database. -/
def ProcessCall.asked (call : ProcessCall) : DbProcess :=
  ⟨call.song.toSong, call.increment, call.percentPlayed⟩

/-- The calls of `db_process` that these are, with the other tags of each song and the time. -/
def filed (tags : Nat → TaggedSong) (now : Nat → Int) (asked : List DbProcess) :
    List ProcessCall :=
  asked.mapIdx fun index each =>
    { song := { tags index with toSong := each.song }
      increment := each.increment
      percentPlayed := each.percentPlayed
      now := now index }

theorem filed_asked (tags : Nat → TaggedSong) (now : Nat → Int) (asked : List DbProcess) :
    (filed tags now asked).map ProcessCall.asked = asked := by
  apply List.ext_getElem
  · rw [List.length_map, filed, List.length_mapIdx]
  · intro index _ _
    simp [filed, ProcessCall.asked]

/-- The plays of a key that count. -/
def counted (plays : List Play) (calls : List ProcessCall) (table : Table) (key : Bytes) : Nat :=
  (plays.zip calls).countP fun pair => pair.1.long ∧ pair.2.keyOf table = some key

/-- Each call is that of the play it is paired with. -/
theorem filed_pairs {played : List Play} {calls : List ProcessCall}
    (asked : calls.map ProcessCall.asked = played.flatMap (Play.ending stats)) :
    calls.length = played.length ∧
      ∀ pair ∈ played.zip calls,
        pair.2.song.toSong = pair.1.ended ∧ pair.2.increment = pair.1.long := by
  let ended (play : Play) : DbProcess :=
    { song := play.ended
      increment := play.long
      percentPlayed :=
        if toInt play.ended.duration > 0 then
          (seconds play.elapsed * 100).tdiv (toInt play.ended.duration)
        else 100 }
  have single : played.flatMap (Play.ending stats) = played.map ended := by
    rw [← List.flatMap_singleton' (played.map ended), List.flatMap_map]
    rfl
  rw [single] at asked
  have length : calls.length = played.length := by
    have lengths := congrArg List.length asked
    rwa [List.length_map, List.length_map] at lengths
  refine ⟨length, fun pair member => ?_⟩
  have same : (played.zip calls).map (fun pair => pair.2.asked)
      = (played.zip calls).map fun pair => ended pair.1 := by
    calc
      (played.zip calls).map (fun pair => pair.2.asked)
          = ((played.zip calls).map Prod.snd).map ProcessCall.asked := by rw [List.map_map]; rfl
      _ = calls.map ProcessCall.asked := by rw [List.map_snd_zip (by omega)]
      _ = played.map ended := asked
      _ = ((played.zip calls).map Prod.fst).map ended := by rw [List.map_fst_zip (by omega)]
      _ = (played.zip calls).map fun pair => ended pair.1 := by rw [List.map_map]; rfl
  have paired := List.map_inj_left.mp same pair member
  exact ⟨congrArg DbProcess.song paired, congrArg DbProcess.increment paired⟩

theorem plays_counted_pairs {played : List Play} {calls : List ProcessCall}
    (length : calls.length = played.length)
    (long : ∀ pair ∈ played.zip calls, pair.2.increment = pair.1.long) (table : Table)
    (key : Bytes) : plays calls table key = counted played calls table key := by
  have second : (played.zip calls).map Prod.snd = calls := List.map_snd_zip (by omega)
  conv_lhs => rw [plays, ← second, List.countP_map]
  apply List.countP_congr
  intro pair member
  simp only [Function.comp_apply, long pair member]

/-- In every run of player events the plays are those that the events tell. While the ids of the
rows fit an `int` and no statement fails, the database that the stats module leaves has counted each
play that was long enough, once, for its song and for the artist, the album and the genre of its
tags, and the rows of other keys are as they were. -/
theorem plays_counted (clock : Int) (events : List PlayerEvent) (tags : Nat → TaggedSong)
    (now : Nat → Int) (db : Database) :
    Holds (fun _ => False)
      (fun world =>
        let calls := filed tags now (stats.effects world.globals.calls)
        ∃ played current, Bookkept events world.globals.calls played current ∧
          calls.length = played.length ∧
          (∀ pair ∈ played.zip calls, pair.2.song.toSong = pair.1.ended) ∧
          (db.HasRoom calls.length →
            ∃ after, (dbProcesses calls).run intExec db = (some (), after) ∧
              ∀ table key, if ∃ call ∈ calls, call.keyOf table = some key then
                  ((after table).get key).map (countersOf table)
                    = some (((((db table).get key).map (countersOf table)).getD noCounters).plus
                        (counted played calls table key))
                else (after table).find key = (db table).find key))
      (playerRun stats clock events) := by
  apply (playerRun_kept stats clock events).mono
  rintro world ⟨played, current, tracks⟩
  intro calls
  have bookkept := tracks.bookkept
  have asked : calls.map ProcessCall.asked = played.flatMap (Play.ending stats) := by
    rw [filed_asked, bookkept.effects stats fun _ => rfl]
  obtain ⟨length, paired⟩ := filed_pairs asked
  refine ⟨played, current, bookkept, length, fun pair member => (paired pair member).1,
    fun room => ⟨db.upsertAll calls, run_dbProcesses_meeting calls db (room.meeting calls), ?_⟩⟩
  intro table key
  split
  next mine =>
    rw [counters_upsertAll, if_pos mine,
      plays_counted_pairs length fun pair member => (paired pair member).2]
  next others =>
    apply Keyed.Table.find_upsertAll_of_ne
    intro op member same
    obtain ⟨call, inCalls, isOp⟩ := List.mem_filterMap.mp member
    have keyed := call.upsertOf_key table
    rw [isOp, Option.map_some, same] at keyed
    exact others ⟨call, inCalls, keyed.symm⟩

end Mpdcron.Stats
