import Mpdcron.Lib.Since
import Mpdcron.Lib.Triple
import Mpdcron.Stats.Command
import Mpdcron.Utils

/-! `stats-file.c`: what `file_load` makes of the configuration. -/

namespace Mpdcron.Stats

open CString Utils

/-- What `file_load` reads of `struct mpdcron_config`. -/
structure MpdcronConfig where
  homePath : Bytes
  hostname : Option Bytes
  port : Option Bytes
  password : Option Bytes
  deriving DecidableEq, Repr

/-- `struct config`, and the warnings that were logged. -/
structure Config where
  maxConnections : Int
  addrs : List Bytes
  port : Int
  dbpath : Bytes
  defaultPermissions : Nat
  passwords : List (Bytes × Nat)
  mpdHostname : Option Bytes
  mpdPort : Option Bytes
  mpdPassword : Option Bytes
  warnings : List Bytes
  deriving DecidableEq, Repr

/-- `MPDCRON_MODULE` -/
def mpdcronModule : Bytes := lit "stats"

def permissionAll : Nat := permissionSelect ||| permissionUpdate

def defaultHost : Bytes := lit "any"
def defaultPort : Int := 6601
def defaultMaxConnections : Int := 16

def Config.warn (key value : Bytes) (config : Config) : Config :=
  { config with
    warnings := config.warnings ++
      [lit "Invalid value in stats." ++ key ++ lit " `" ++ value ++ lit "'"] }

/-- One turn of the loop over `default_permissions`. -/
def addDefault (config : Config) (value : Bytes) : Config :=
  if strncmp value (lit "select") 7 = .eq then
    { config with defaultPermissions := config.defaultPermissions ||| permissionSelect }
  else if strncmp value (lit "update") 7 = .eq then
    { config with defaultPermissions := config.defaultPermissions ||| permissionUpdate }
  else if strncmp value (lit "none") 5 = .eq then { config with defaultPermissions := 0 }
  else config.warn (lit "default_permissions") value

def loadDefaults (values : Option (List Bytes)) (config : Config) : Config :=
  match values with
  | some values => values.foldl addDefault config
  | none => { config with defaultPermissions := permissionSelect ||| permissionUpdate }

def atSign : UInt8 := 64

/-- `g_strsplit(string, "@", 2)` -/
def splitEntry (string : Bytes) : List Bytes :=
  if string = [] then []
  else if atSign ∈ string then
    [string.takeWhile (· ≠ atSign), (string.dropWhile (· ≠ atSign)).tail]
  else [string]

/-- `permissions & ~perm` -/
def clearBits (permissions perm : Nat) : Nat := permissions ^^^ (permissions &&& perm)

/-- The insertion into the table, which replaces an earlier permission of the password, and
the change of the default permissions. -/
def Config.insertPassword (password : Bytes) (perm : Nat) (config : Config) : Config :=
  { config with
    passwords := (password, perm) :: config.passwords.filter (·.1 ≠ password)
    defaultPermissions := clearBits config.defaultPermissions perm }

/-- One turn of the loop over `passwords`. -/
def addPassword (config : Config) (value : Bytes) : Config :=
  match splitEntry value with
  | [password, perm] =>
      if strncmp perm (lit "select") 7 = .eq then config.insertPassword password permissionSelect
      else if strncmp perm (lit "update") 7 = .eq then
        config.insertPassword password permissionUpdate
      else if strncmp perm (lit "all") 4 = .eq then config.insertPassword password permissionAll
      else config.warn (lit "passwords") value
  | _ => config.warn (lit "passwords") value

def loadPasswords (values : Option (List Bytes)) (config : Config) : Config :=
  match values with
  | some values => values.foldl addPassword config
  | none => config

/-- The configuration, or the message of the error that `file_load` fails with. -/
def fileLoad (conf : MpdcronConfig) (fd : KeyFile) : Except Bytes Config := do
  let dbpath ← loadString fd mpdcronModule (lit "dbpath") false none
  let port ← loadInteger fd mpdcronModule (lit "port") false (-1)
  let maxConnections ← loadInteger fd mpdcronModule (lit "max_connections") false (-1)
  let defaults ← loadStringList fd (lit "default_permissions")
    (lit "stats.default_permissions")
  let passwords ← loadStringList fd (lit "passwords") (lit "stats.passwords")
  let addrs ← loadStringList fd (lit "bind_to_addresses") (lit "stats.bind_to_address")
  let config : Config :=
    { maxConnections := if maxConnections ≤ 0 then defaultMaxConnections else maxConnections
      addrs := addrs.getD [defaultHost]
      port := if port ≤ 0 then defaultPort else port
      dbpath := dbpath.getD (buildFilename conf.homePath (lit "stats.db"))
      defaultPermissions := 0
      passwords := []
      mpdHostname := conf.hostname
      mpdPort := conf.port
      mpdPassword := conf.password
      warnings := [] }
  return loadPasswords passwords (loadDefaults defaults config)

/-! ### What the lists ask for -/

/-- A word names a permission bit. -/
def WordNames (word : Bytes) (bit : Nat) : Prop :=
  word = lit "select" ∧ bit = 0 ∨ word = lit "update" ∧ bit = 1

/-- The configured defaults grant the bit: it is named after the last `none`, or the list is
absent. -/
def DefaultsGrant (defaults : Option (List Bytes)) (bit : Nat) : Prop :=
  match defaults with
  | none => bit = 0 ∨ bit = 1
  | some values => Since (WordNames · bit) (· ≠ lit "none") values

/-- A word stands for the permissions of a password. -/
inductive WordGives : Bytes → Nat → Prop
  | select : WordGives (lit "select") permissionSelect
  | update : WordGives (lit "update") permissionUpdate
  | all : WordGives (lit "all") permissionAll

/-- `entry` is `password@word`, cut at the first `@`. -/
def EntryGives (entry password : Bytes) (perm : Nat) : Prop :=
  ∃ word, entry = password ++ atSign :: word ∧ atSign ∉ password ∧ WordGives word perm

/-- A well-formed entry names the bit. -/
def EntriesName (entries : List Bytes) (bit : Nat) : Prop :=
  ∃ entry ∈ entries, ∃ password perm, EntryGives entry password perm ∧ perm.testBit bit

/-- An entry of this password names the bit, and no later one takes it away. -/
def LastsFor (entries : List Bytes) (password : Bytes) (bit : Nat) : Prop :=
  Since (fun entry => ∃ perm, EntryGives entry password perm ∧ perm.testBit bit)
    (fun entry => ∀ perm, EntryGives entry password perm → perm.testBit bit) entries

/-- Some password of the table grants the bit. -/
def Config.Grants (config : Config) (bit : Nat) : Prop :=
  ∃ password perm, config.passwords.lookup password = some perm ∧ perm.testBit bit

/-- No permission is opened and none is locked out. -/
structure Config.Faithful (config : Config) (defaults : Option (List Bytes))
    (entries : List Bytes) : Prop where
  defaults : ∀ bit, config.defaultPermissions.testBit bit ↔
    DefaultsGrant defaults bit ∧ ¬ EntriesName entries bit
  granted : ∀ bit, EntriesName entries bit → config.Grants bit

/-- For every bit that an entry names, some password keeps it to the end of the list. -/
def BitsLast (entries : List Bytes) : Prop :=
  ∀ bit, EntriesName entries bit → ∃ password, LastsFor entries password bit

theorem strncmp_word (text : Bytes) (word : String) (size : Nat) (length : (lit word).length + 1 = size) :
    strncmp text (lit word) size = .eq ↔ text = lit word := by
  rw [← length]
  exact strncmp_length (lit word) text

theorem permission_bit (bit : Nat) :
    (permissionSelect.testBit bit ↔ bit = 0) ∧ (permissionUpdate.testBit bit ↔ bit = 1) := by
  have power (exponent : Nat) : (2 ^ exponent).testBit bit ↔ bit = exponent := by
    rw [Nat.testBit_two_pow, decide_eq_true_iff, eq_comm]
  exact ⟨power 0, power 1⟩

theorem clearBits_bit (permissions perm bit : Nat) :
    (clearBits permissions perm).testBit bit ↔ permissions.testBit bit ∧ ¬ perm.testBit bit := by
  rw [clearBits, Nat.testBit_xor, Nat.testBit_and]
  cases permissions.testBit bit <;> cases perm.testBit bit <;> simp

theorem addDefault_bit (config : Config) (value : Bytes) (bit : Nat) :
    (addDefault config value).defaultPermissions.testBit bit ↔
      WordNames value bit ∨ config.defaultPermissions.testBit bit ∧ value ≠ lit "none" := by
  have different : lit "select" ≠ lit "none" ∧ lit "update" ≠ lit "none" ∧
      lit "select" ≠ lit "update" ∧ lit "update" ≠ lit "select" ∧ lit "none" ≠ lit "select" ∧
      lit "none" ≠ lit "update" := by
    decide
  simp only [addDefault, WordNames, strncmp_word value "select" 7 rfl,
    strncmp_word value "update" 7 rfl, strncmp_word value "none" 5 rfl]
  by_cases select : value = lit "select"
  · simp [select, different, (permission_bit bit).1, or_comm]
  · by_cases update : value = lit "update"
    · simp [update, different, (permission_bit bit).2, or_comm]
    · by_cases none : value = lit "none"
      · simp [none, different]
      · simp [select, update, none, Config.warn]

theorem addDefaults_bit (values : List Bytes) (config : Config) (bit : Nat)
    (start : config.defaultPermissions = 0) :
    (values.foldl addDefault config).defaultPermissions.testBit bit ↔
      Since (WordNames · bit) (· ≠ lit "none") values := by
  induction values using List.reverseRecOn with
  | nil => simp [start]
  | append_singleton past value ih =>
      rw [List.foldl_concat, addDefault_bit, Since.concat, ih]

/-! ### The table of passwords -/

theorem splitEntry_iff (entry password word : Bytes) :
    splitEntry entry = [password, word] ↔
      entry = password ++ atSign :: word ∧ atSign ∉ password := by
  have cut := List.takeWhile_append_dropWhile (p := (· ≠ atSign)) (l := entry)
  constructor
  · intro split
    rw [splitEntry] at split
    split_ifs at split with empty present
    · rw [List.cons.injEq, List.cons.injEq] at split
      obtain ⟨front, back, -⟩ := split
      have clean : atSign ∉ password := by
        intro inFront
        rw [← front] at inFront
        simpa using List.mem_takeWhile_imp inFront
      refine ⟨?_, clean⟩
      cases rest : entry.dropWhile (· ≠ atSign) with
      | nil =>
          rw [rest, List.append_nil] at cut
          rw [← front, cut] at clean
          exact absurd present clean
      | cons ch tail =>
          have stopped : ch = atSign := by
            have more : entry.dropWhile (· ≠ atSign) ≠ [] := by
              rw [rest]
              exact List.cons_ne_nil ch tail
            have first := List.head_dropWhile_not (· ≠ atSign) more
            simp only [rest, List.head_cons] at first
            simpa using first
          rw [rest, List.tail_cons] at back
          rw [← cut, rest, front, stopped, back]
    · simp at split
  · intro parts
    obtain ⟨rfl, clean⟩ := parts
    have all : ∀ ch ∈ password, decide (ch ≠ atSign) = true := by
      intro ch inFront
      exact decide_eq_true fun same => clean (same ▸ inFront)
    rw [splitEntry, if_neg (by simp), if_pos (by simp), List.takeWhile_append_of_pos all,
      List.dropWhile_append_of_pos all]
    simp

theorem WordGives.unique {word : Bytes} {perm other : Nat} (gives : WordGives word perm)
    (also : WordGives word other) : perm = other := by
  generalize same : word = text at also
  cases gives <;> cases also <;> first | rfl | exact absurd same (by decide)

theorem EntryGives.unique {entry password password' : Bytes} {perm perm' : Nat}
    (gives : EntryGives entry password perm) (also : EntryGives entry password' perm') :
    password = password' ∧ perm = perm' := by
  obtain ⟨word, cut, clean, stands⟩ := gives
  obtain ⟨word', cut', clean', stands'⟩ := also
  have split := (splitEntry_iff entry password word).mpr ⟨cut, clean⟩
  have split' := (splitEntry_iff entry password' word').mpr ⟨cut', clean'⟩
  rw [split, List.cons.injEq, List.cons.injEq] at split'
  obtain ⟨rfl, rfl, -⟩ := split'
  exact ⟨rfl, stands.unique stands'⟩

/-- An entry is inserted if it is well-formed, and otherwise only reported. -/
theorem addPassword_cases (config : Config) (entry : Bytes) :
    (∃ password perm, EntryGives entry password perm ∧
        addPassword config entry = config.insertPassword password perm) ∨
      (∀ password perm, ¬ EntryGives entry password perm) ∧
        addPassword config entry = config.warn (lit "passwords") entry := by
  by_cases parts : ∃ password word, splitEntry entry = [password, word]
  · obtain ⟨password, word, split⟩ := parts
    obtain ⟨cut, clean⟩ := (splitEntry_iff entry password word).mp split
    have gives (perm : Nat) (stands : WordGives word perm) : EntryGives entry password perm :=
      ⟨word, cut, clean, stands⟩
    simp only [addPassword, split, strncmp_word word "select" 7 rfl,
      strncmp_word word "update" 7 rfl, strncmp_word word "all" 4 rfl]
    split_ifs with select update all
    · exact Or.inl ⟨password, _, gives _ (select ▸ .select), rfl⟩
    · exact Or.inl ⟨password, _, gives _ (update ▸ .update), rfl⟩
    · exact Or.inl ⟨password, _, gives _ (all ▸ .all), rfl⟩
    · refine Or.inr ⟨fun password' perm given => ?_, rfl⟩
      obtain ⟨word', cut', clean', stands⟩ := given
      have split' := (splitEntry_iff entry password' word').mpr ⟨cut', clean'⟩
      rw [split, List.cons.injEq, List.cons.injEq] at split'
      obtain ⟨-, rfl, -⟩ := split'
      cases stands with
      | select => exact select rfl
      | update => exact update rfl
      | all => exact all rfl
  · refine Or.inr ⟨fun password perm given => ?_, ?_⟩
    · obtain ⟨word, cut, clean, -⟩ := given
      exact parts ⟨password, word, (splitEntry_iff entry password word).mpr ⟨cut, clean⟩⟩
    · rw [addPassword]
      split
      · rename_i password word split
        exact absurd ⟨password, word, split⟩ parts
      · rfl

theorem lookup_insertPassword (config : Config) (password other : Bytes) (perm : Nat) :
    (config.insertPassword password perm).passwords.lookup other
      = if other = password then some perm else config.passwords.lookup other := by
  rw [Config.insertPassword, List.lookup_cons]
  by_cases same : other = password
  · rw [if_pos same, beq_iff_eq.mpr same]
  · rw [if_neg same, beq_eq_false_iff_ne.mpr same]
    dsimp only
    induction config.passwords with
    | nil => rfl
    | cons entry rest ih =>
        by_cases replaced : entry.1 = password
        · have kept : (other == entry.1) = false := beq_eq_false_iff_ne.mpr (replaced ▸ same)
          rw [List.filter_cons_of_neg (by simp [replaced]), ih, List.lookup_cons, kept]
        · rw [List.filter_cons_of_pos (by simp [replaced]), List.lookup_cons, List.lookup_cons, ih]

/-- What the loop leaves of the default permissions. -/
theorem addPasswords_defaults (entries : List Bytes) (config : Config) (bit : Nat) :
    (entries.foldl addPassword config).defaultPermissions.testBit bit ↔
      config.defaultPermissions.testBit bit ∧ ¬ EntriesName entries bit := by
  induction entries using List.reverseRecOn with
  | nil => simp [EntriesName]
  | append_singleton past entry ih =>
      have names : EntriesName (past ++ [entry]) bit ↔ EntriesName past bit ∨
          ∃ password perm, EntryGives entry password perm ∧ perm.testBit bit := by
        simp [EntriesName, or_and_right, exists_or]
      rw [List.foldl_concat, names, not_or, ← and_assoc, ← ih]
      rcases addPassword_cases (past.foldl addPassword config) entry with
        ⟨password, perm, gives, inserted⟩ | ⟨malformed, warned⟩
      · have own : (∃ password perm, EntryGives entry password perm ∧ perm.testBit bit) ↔
            perm.testBit bit := by
          constructor
          · intro named
            obtain ⟨password', perm', gives', bit'⟩ := named
            exact (gives.unique gives').2 ▸ bit'
          · exact fun names => ⟨password, perm, gives, names⟩
        rw [inserted, own]
        exact clearBits_bit _ perm bit
      · have none : ¬ ∃ password perm, EntryGives entry password perm ∧ perm.testBit bit := by
          intro named
          obtain ⟨password, perm, gives, -⟩ := named
          exact malformed password perm gives
        rw [warned, Config.warn]
        simp [none]

/-- What the table holds for a password after the loop. -/
theorem addPasswords_lookup (entries : List Bytes) (config : Config) (password : Bytes) (bit : Nat)
    (start : config.passwords = []) :
    (∃ perm, (entries.foldl addPassword config).passwords.lookup password = some perm ∧
        perm.testBit bit) ↔ LastsFor entries password bit := by
  induction entries using List.reverseRecOn with
  | nil => simp [start, LastsFor]
  | append_singleton past entry ih =>
      rw [LastsFor, Since.concat, ← LastsFor, ← ih, List.foldl_concat]
      rcases addPassword_cases (past.foldl addPassword config) entry with
        ⟨named, perm, gives, inserted⟩ | ⟨malformed, warned⟩
      · simp only [inserted, lookup_insertPassword]
        by_cases own : password = named
        · rw [own]
          constructor
          · intro held
            obtain ⟨perm', same, holds⟩ := held
            rw [if_pos rfl, Option.some.injEq] at same
            exact Or.inl ⟨perm, gives, same ▸ holds⟩
          · intro either
            refine ⟨perm, if_pos rfl, ?_⟩
            rcases either with ⟨perm', gives', holds⟩ | ⟨-, keeps⟩
            · exact (gives.unique gives').2 ▸ holds
            · exact keeps perm gives
        · have others (perm' : Nat) : ¬ EntryGives entry password perm' := fun gives' =>
            own (gives.unique gives').1.symm
          simp [own, others]
      · have others (perm' : Nat) : ¬ EntryGives entry password perm' := malformed password perm'
        simp [warned, Config.warn, others]

/-! ### The configuration that is loaded -/

/-- The permissions of a loaded configuration are what the two loops leave. -/
theorem fileLoad_loops (conf : MpdcronConfig) (fd : KeyFile) (config : Config)
    (loaded : fileLoad conf fd = .ok config) :
    ∃ start : Config, start.defaultPermissions = 0 ∧ start.passwords = [] ∧
      config = loadPasswords (fd.list (lit "passwords"))
        (loadDefaults (fd.list (lit "default_permissions")) start) := by
  obtain ⟨dbpath, -, loaded⟩ := Triple.bind_ok loaded
  obtain ⟨port, -, loaded⟩ := Triple.bind_ok loaded
  obtain ⟨maxConnections, -, loaded⟩ := Triple.bind_ok loaded
  obtain ⟨defaults, defaultsLoaded, loaded⟩ := Triple.bind_ok loaded
  obtain ⟨passwords, passwordsLoaded, loaded⟩ := Triple.bind_ok loaded
  obtain ⟨addrs, -, loaded⟩ := Triple.bind_ok loaded
  cases loaded
  rw [← loadStringList_ok fd _ _ defaults defaultsLoaded,
    ← loadStringList_ok fd _ _ passwords passwordsLoaded]
  exact ⟨_, rfl, rfl, rfl⟩

theorem loadDefaults_bit (defaults : Option (List Bytes)) (config : Config) (bit : Nat)
    (start : config.defaultPermissions = 0) :
    (loadDefaults defaults config).defaultPermissions.testBit bit ↔ DefaultsGrant defaults bit := by
  cases defaults with
  | some values => exact addDefaults_bit values config bit start
  | none =>
      dsimp only [loadDefaults, DefaultsGrant]
      rw [Nat.testBit_or, Bool.or_eq_true, (permission_bit bit).1, (permission_bit bit).2]

theorem loadDefaults_passwords (defaults : Option (List Bytes)) (config : Config) :
    (loadDefaults defaults config).passwords = config.passwords := by
  cases defaults with
  | none => rfl
  | some values =>
      change (values.foldl addDefault config).passwords = config.passwords
      induction values using List.reverseRecOn with
      | nil => rfl
      | append_singleton past value ih =>
          rw [List.foldl_concat, addDefault, ← ih]
          split_ifs <;> rfl

theorem loadPasswords_eq (entries : Option (List Bytes)) (config : Config) :
    loadPasswords entries config = (entries.getD []).foldl addPassword config := by
  cases entries <;> rfl

theorem fileLoad_defaults (conf : MpdcronConfig) (fd : KeyFile) (config : Config)
    (loaded : fileLoad conf fd = .ok config) (bit : Nat) :
    config.defaultPermissions.testBit bit ↔
      DefaultsGrant (fd.list (lit "default_permissions")) bit ∧
        ¬ EntriesName ((fd.list (lit "passwords")).getD []) bit := by
  obtain ⟨start, noDefaults, -, rfl⟩ := fileLoad_loops conf fd config loaded
  rw [loadPasswords_eq, addPasswords_defaults, loadDefaults_bit _ start bit noDefaults]

theorem fileLoad_grants (conf : MpdcronConfig) (fd : KeyFile) (config : Config)
    (loaded : fileLoad conf fd = .ok config) (bit : Nat) :
    config.Grants bit ↔
      ∃ password, LastsFor ((fd.list (lit "passwords")).getD []) password bit := by
  obtain ⟨start, -, noPasswords, rfl⟩ := fileLoad_loops conf fd config loaded
  have empty := (loadDefaults_passwords (fd.list (lit "default_permissions")) start).trans noPasswords
  rw [loadPasswords_eq]
  exact exists_congr fun password => addPasswords_lookup _ _ password bit empty

/-- The configured permissions are neither opened nor locked out exactly when no entry takes
back the last grant of a bit that an entry names. -/
theorem fileLoad_faithful_iff (conf : MpdcronConfig) (fd : KeyFile) (config : Config)
    (loaded : fileLoad conf fd = .ok config) :
    config.Faithful (fd.list (lit "default_permissions")) ((fd.list (lit "passwords")).getD []) ↔
      BitsLast ((fd.list (lit "passwords")).getD []) := by
  have grants := fileLoad_grants conf fd config loaded
  constructor
  · intro faithful bit named
    exact (grants bit).mp (faithful.granted bit named)
  · intro last
    exact ⟨fileLoad_defaults conf fd config loaded, fun bit named => (grants bit).mpr (last bit named)⟩

/-- What a password of the table grants, a client that sends it gets. -/
theorem Config.Grants.obtained {Db : Type} (host : Host Db) (config : Config) (bit : Nat)
    (served : host.passwords = config.passwords) (grants : config.Grants bit) :
    ∃ password, ∀ (client : Nat) (st : State Db), ∃ after,
      handlePassword host client [lit "password", password] st = .ok (.ok, after) ∧
        (after.perm client).testBit bit := by
  obtain ⟨password, perm, found, holds⟩ := grants
  have nonzero : perm ≠ 0 := by
    intro zero
    simp [zero] at holds
  refine ⟨password, fun client st => ⟨commandOk client (st.grant client perm), ?_, ?_⟩⟩
  · rw [handlePassword, served, found]
    exact if_pos nonzero
  · simp [commandOk, State.flushWrite, State.scheduleWrite, State.grant, holds]

def keyFileOf (defaults passwords : List Bytes) : KeyFile where
  getString _ := .error ⟨.keyNotFound, []⟩
  getInteger _ := .error ⟨.keyNotFound, []⟩
  getStringList key :=
    if key = lit "default_permissions" then .ok defaults
    else if key = lit "passwords" then .ok passwords
    else .error ⟨.keyNotFound, []⟩

def homeConfig : MpdcronConfig :=
  { homePath := lit "/home/u/.mpdcron/", hostname := some (lit "localhost")
    port := some (lit "6600"), password := none }

/-- Everyone may read, and one password lets a client write. -/
theorem fileLoad_faithful_admin : ∃ config,
    fileLoad homeConfig (keyFileOf [lit "select"] [lit "secret@update"]) = .ok config ∧
      config.defaultPermissions = permissionSelect ∧
      config.Faithful (some [lit "select"]) [lit "secret@update"] := by
  have gives : EntryGives (lit "secret@update") (lit "secret") permissionUpdate :=
    ⟨lit "update", by decide, by decide, .update⟩
  refine ⟨_, rfl, by decide, (fileLoad_faithful_iff homeConfig
    (keyFileOf [lit "select"] [lit "secret@update"]) _ rfl).mpr fun bit named => ?_⟩
  obtain ⟨entry, member, password, perm, given, holds⟩ := named
  obtain rfl := List.mem_singleton.mp member
  exact ⟨password, [], _, [], rfl, ⟨perm, given, holds⟩, by simp⟩

/-- A password is configured twice: nobody can be given the permission to select. -/
theorem repeated_password_locks_out : ∃ config,
    fileLoad homeConfig (keyFileOf [lit "select"] [lit "secret@select", lit "secret@update"])
        = .ok config ∧
      config.defaultPermissions = permissionNone ∧
      config.passwords = [(lit "secret", permissionUpdate)] ∧
      EntriesName [lit "secret@select", lit "secret@update"] 0 ∧ ¬ config.Grants 0 ∧
      ¬ config.Faithful (some [lit "select"]) [lit "secret@select", lit "secret@update"] := by
  have named : EntriesName [lit "secret@select", lit "secret@update"] 0 :=
    ⟨lit "secret@select", by simp, lit "secret", permissionSelect,
      ⟨lit "select", by decide, by decide, .select⟩, rfl⟩
  have locked (config : Config) (table : config.passwords = [(lit "secret", permissionUpdate)]) :
      ¬ config.Grants 0 := by
    intro grants
    obtain ⟨password, perm, found, holds⟩ := grants
    rw [table, List.lookup_cons] at found
    split at found
    · cases found
      exact absurd holds (by decide)
    · cases found
  refine ⟨_, rfl, by decide, by decide, named, locked _ (by decide), fun faithful => ?_⟩
  exact locked _ (by decide) (faithful.granted 0 named)

end Mpdcron.Stats
