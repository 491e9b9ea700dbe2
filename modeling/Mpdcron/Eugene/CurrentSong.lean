import Mpdcron.Eugene.AlbumIdentity
import Mpdcron.Eugene.Linearized
import Mpdcron.Eugene.Program
import Mpdcron.Eugene.Served
import Mpdcron.Stats.AddTag
import Mpdcron.Stats.Conditions

/-! A command of eugene without an expression, from its command line to the row of the current
song. -/

namespace Mpdcron.Eugene.Program

open CString Mpdcron.Stats Mpdcron.EugeneUtils SqlText SqlRow Player

/-! ### The commands that change rows -/

/-- A command with the value of its command line. -/
inductive Edit where
  | love (on : Bool)
  | kill (on : Bool)
  | rate (value : Bytes)
  | rateAbsolute (value : Bytes)
  | count (value : Bytes)
  | karma (value : Bytes)
  | addtag (value : Bytes)
  deriving DecidableEq, Repr

def Edit.name : Edit → Bytes
  | .love on => if on then lit "love" else lit "hate"
  | .kill on => if on then lit "kill" else lit "unkill"
  | .rate _ => lit "rate"
  | .rateAbsolute _ => lit "rateabs"
  | .count _ => lit "count"
  | .karma _ => lit "karma"
  | .addtag _ => lit "addtag"

def Edit.args : Edit → List Bytes
  | .love _ | .kill _ => []
  | .rate value | .rateAbsolute value | .count value | .karma value | .addtag value => [value]

/-- Nothing where the options exclude each other. -/
def Options.table (options : Options) : Option Table :=
  match options.artist, options.album, options.genre with
  | false, false, false => some .song
  | true, false, false => some .artist
  | false, true, false => some .album
  | false, false, true => some .genre
  | _, _, _ => none

def Edit.entries : Edit → OptionEntries
  | .love false => hateEntries
  | _ => optionEntries

/-- The table that a command without an expression is about. -/
def Edit.table (edit : Edit) (given : List OptionName) : Option Table :=
  match edit with
  | .karma _ => some .song
  | _ => (CommandLine.options ⟨given, edit.args⟩ edit.entries).table

def Edit.call (edit : Edit) (table : Table) (expr : Bytes) : Call :=
  match edit with
  | .love on => .love table on expr
  | .kill on => .kill table on expr
  | .rate value => .rate table expr value
  | .rateAbsolute value => .rateAbsolute table expr value
  | .count value => .count table expr value
  | .karma value => .karma expr value
  | .addtag value => .addtag table expr value

def Edit.current (edit : Edit) : Table → TaggedSong → Option SongExpr
  | .song => currentUri
  | .artist => currentArtist
  | .album =>
      match edit with
      | .addtag _ => currentAlbumArtist
      | _ => currentAlbum
  | .genre => currentGenre

/-- The change that the daemon is asked for, where it takes the value. -/
def Edit.asked (edit : Edit) (table : Table) : Option Change :=
  match edit with
  | .love on => some (.love table on)
  | .kill on => some (.kill table on)
  | .rate value => (numberArg value).toOption.map (.rate table)
  | .rateAbsolute value => (numberArg value).toOption.map (.rateAbsolute table)
  | .count value => (numberArg value).toOption.map (.count table)
  | .karma value => (karmaArg value).toOption.map .karma
  | .addtag value => (validateTag value).toOption.map fun _ => .addTag table value

section Commands

variable {Db : Type} (site : Site Db)

/-- The daemon and the database file are what they are documented to be. -/
structure Faithful (engine : Engine site.host.sqlite) : Prop where
  authorizes : Authorizes site.host
  inverse : TimeInverse site.host.strftime site.strptime
  contents : site.contents = engine.contents
  stored : ∀ call db,
    let tables := ((dbProcess call).run (dbExecFailing site.fails) (site.contents db)).2
    engine.contents (site.store tables db) = tables
  reads : engine.ReadsConditions
  reliable : ∀ perm, engine.Reliable (commandAuthorizer perm)

variable {site} {engine : Engine site.host.sqlite}

/-- The permissions behind `mpdcron_password`; nothing where it fails or there is no connection. -/
def Site.admitted (site : Site Db) (st : State Db) : Option Nat :=
  if site.connects then
    match site.password with
    | none => some (st.perm site.client)
    | some password =>
        let granted := (site.host.passwords.lookup password).getD 0
        if granted = 0 then none else some (st.perm site.client ||| granted)
  else none

variable (site) in
/-- The call of `db_process` in `load_current_song`. -/
def Site.processCall (song : TaggedSong) : ProcessCall :=
  { song, increment := false, percentPlayed := -1, now := site.now }

variable (site) in
/-- The tables behind `load_current_song`. -/
def Site.loaded (song : TaggedSong) (db : Db) : Database :=
  if site.nodb then site.contents db
  else ((dbProcess (site.processCall song)).run (dbExecFailing site.fails) (site.contents db)).2

theorem textOf_artist (row : Keyed.Row Bytes (Data .album)) :
    textOf .album row (lit "artist") = AlbumData.artist row.data := by
  rcases row with ⟨id, key, counters, artist⟩
  cases artist <;> rfl

/-- The expressions for a song in the tables. -/
inductive About (song : TaggedSong) : Table → SongExpr → Prop where
  | song : About song .song (.byUri song.uri)
  | artist (artist : Bytes) (tag : song.artist = some artist) : About song .artist (.byName artist)
  | album (album : Bytes) (tag : song.album = some album) : About song .album (.byName album)
  | albumArtist (album artist : Bytes) (tag : song.album = some album)
      (by_ : song.artist = some artist) : About song .album (.byAlbum album artist)
  | genre (genre : Bytes) (tag : song.genre = some genre) : About song .genre (.byName genre)

/-- The texts of a song are single lines. -/
structure SongText (song : TaggedSong) : Prop where
  uri : Text song.uri
  artist : ∀ artist ∈ song.artist, Text artist
  album : ∀ album ∈ song.album, Text album
  genre : ∀ genre ∈ song.genre, Text genre

namespace About

variable {song : TaggedSong} {table : Table} {expr : SongExpr}

theorem strings (about : About song table expr) (texts : SongText song) :
    ∀ text ∈ expr.strings, Text text := by
  cases about with
  | song => exact List.forall_mem_singleton.mpr texts.uri
  | artist artist tag => exact List.forall_mem_singleton.mpr (texts.artist artist tag)
  | album album tag => exact List.forall_mem_singleton.mpr (texts.album album tag)
  | genre genre tag => exact List.forall_mem_singleton.mpr (texts.genre genre tag)
  | albumArtist album artist tag by_ =>
      exact List.forall_mem_cons.mpr
        ⟨texts.album album tag, List.forall_mem_singleton.mpr (texts.artist artist by_)⟩

theorem compares (about : About song table expr) (texts : SongText song) :
    Compares table expr.condition := by
  have noNul : ∀ comparison ∈ expr.condition, (0 : UInt8) ∉ comparison.2 := by
    intro comparison member
    refine (about.strings texts comparison.2 ?_).2
    cases about <;> simp only [SongExpr.condition, List.mem_cons, List.not_mem_nil, or_false] at member
    case albumArtist =>
      rcases member with rfl | rfl <;> simp [SongExpr.strings]
    all_goals
      subst member
      exact List.mem_singleton_self _
  refine ⟨expr.condition_ne_nil, ?_, ?_, noNul⟩
  · cases about <;> simp [SongExpr.condition]
  · cases about <;> simp [SongExpr.condition, Table.textNames]

/-- Only one row of a table can match. -/
theorem key (about : About song table expr) :
    ∃ key, ∀ row : Keyed.Row Bytes (Data table), expr.Matches (textOf table row) → row.key = key := by
  cases about with
  | song => exact ⟨song.uri, fun row => Option.some.inj⟩
  | artist artist tag => exact ⟨artist, fun row => Option.some.inj⟩
  | album album tag => exact ⟨album, fun row => Option.some.inj⟩
  | genre genre tag => exact ⟨genre, fun row => Option.some.inj⟩
  | albumArtist album artist tag by_ => exact ⟨album, fun row both => Option.some.inj both.1⟩

/-- The row that `db_process` has written matches. -/
theorem filed (about : About song table expr) (call : ProcessCall) (same : call.song = song)
    (accepted : (songCheckTags song.toSong).isSome) (rows : Keyed.Table Bytes (Data table)) :
    ∃ row ∈ (rows.upsertAny (call.upsertOf table)).rows, expr.Matches (textOf table row) := by
  obtain ⟨tags, checked⟩ := Option.isSome_iff_exists.mp accepted
  have keyed := call.upsertOf_key table
  rw [ProcessCall.keyOf, same, checked, Option.bind_some] at keyed
  have written (key : Bytes) (wanted : (call.upsertOf table).map Keyed.Upsert.key = some key) :
      ∃ op, call.upsertOf table = some op ∧
        ∃ row ∈ (rows.upsertAny (call.upsertOf table)).rows, row.key = key ∧
          some row.data = op.apply (rows.get op.key) := by
    obtain ⟨op, isOp, rfl⟩ := Option.map_eq_some_iff.mp wanted
    obtain ⟨row, member, own, data⟩ := rows.upsert_row op
    refine ⟨op, isOp, row, ?_, own, data⟩
    rw [isOp]
    exact member
  cases about with
  | song =>
      obtain ⟨-, -, row, member, own, -⟩ := written song.uri keyed
      exact ⟨row, member, congrArg some own⟩
  | artist artist tag =>
      have first : tags.1 = artist := by
        rw [songCheckTags, tag] at checked
        cases checked
        rfl
      obtain ⟨-, -, row, member, own, -⟩ := written artist (keyed.trans (congrArg some first))
      exact ⟨row, member, congrArg some own⟩
  | album album tag =>
      obtain ⟨-, -, row, member, own, -⟩ := written album (keyed.trans tag)
      exact ⟨row, member, congrArg some own⟩
  | genre genre tag =>
      obtain ⟨-, -, row, member, own, -⟩ := written genre (keyed.trans tag)
      exact ⟨row, member, congrArg some own⟩
  | albumArtist album artist tag by_ =>
      obtain ⟨op, isOp, row, member, own, data⟩ := written album (keyed.trans tag)
      have credited := apply_artist call op isOp (rows.get op.key)
      rw [← data, same, by_] at credited
      refine ⟨row, member, congrArg some own, ?_⟩
      rw [textOf_artist]
      exact Option.some.inj credited

end About

/-! ### What the daemon makes of the call -/

/-- The value is a line, and a tag needs no quoting. -/
structure Edit.Fits (edit : Edit) : Prop where
  texts : ∀ value ∈ edit.args, Text value
  plain : ∀ value, edit = .addtag value → apostrophe ∉ value

/-- The command without its value. -/
def Edit.blank : Edit → Edit
  | .love on => .love on
  | .kill on => .kill on
  | .rate _ => .rate []
  | .rateAbsolute _ => .rateAbsolute []
  | .count _ => .count []
  | .karma _ => .karma []
  | .addtag _ => .addtag []

/-- The commands that the daemon does not find in its table. -/
def Edit.lost (edit : Edit) (table : Table) : Bool :=
  misplaced.contains (edit.blank.call table []).request.command

/-- The change that a client with these permissions gets. -/
def Edit.granted (edit : Edit) (table : Table) (perm : Nat) : Option Change :=
  if edit.lost table then none
  else if permissionUpdate ≠ perm &&& permissionUpdate then none
  else edit.asked table

variable (site) in
/-- What a command without an expression does, if it does anything: a change of the rows that an
expression finds in a table. -/
def Edit.plan (edit : Edit) (given : List OptionName) (song : TaggedSong) (st : State Db) :
    Option (Table × SongExpr × Change) := do
  let table ← edit.table given
  let perm ← site.admitted st
  let expr ← edit.current table song
  let change ← edit.granted table perm
  return (table, expr, change)

end Commands

end Mpdcron.Eugene.Program
