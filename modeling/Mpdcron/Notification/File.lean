import Mpdcron.Player.Event
import Mpdcron.Lib.Triple
import Mpdcron.Utils

/-! `notification-file.c`: what `file_load` makes of the configuration, and which events it
enables. -/

namespace Mpdcron.Notification

open CString
open Mpdcron.Player (toInt)
open Mpdcron.Utils

/-! ### The mask of the events -/

def mpdIdleStoredPlaylist : UInt32 := 0x2

def mpdIdleQueue : UInt32 := 0x4

def mpdIdleOutput : UInt32 := 0x20

/-- The events that the module has a handler for. -/
inductive Handled where
  | database
  | player
  | mixer
  | options
  | update
  deriving DecidableEq, Repr

/-- `MPD_IDLE_DATABASE` and so on -/
def Handled.mpdIdle : Handled → UInt32
  | .database => 0x1
  | .player => 0x8
  | .mixer => 0x10
  | .options => 0x40
  | .update => 0x80

/-- `struct config`, and the warnings that were logged. -/
structure Config where
  events : UInt32
  coverPath : Option Bytes
  coverSuffix : Bytes
  timeout : Option Bytes
  type : Option Bytes
  urgency : Option Bytes
  hints : Option (List Bytes)
  warnings : List Bytes
  deriving DecidableEq, Repr

def Config.warn (config : Config) (warning : Bytes) : Config :=
  { config with warnings := config.warnings ++ [warning] }

/-! ### Loading -/

/-- One of the strings that the module reads with `load_string`. -/
def loadText (fd : KeyFile) (name : Bytes) : Except Bytes (Option Bytes) :=
  (loadString fd (lit "notification") name false none).mapError fun message =>
    lit "Failed to load notification." ++ name ++ lit ": " ++ message

section Events

variable (mpdIdleNameParse : Bytes → UInt32)

/-- One turn of the loop over `events`. -/
def addEvent (config : Config) (value : Bytes) : Config :=
  let event := mpdIdleNameParse value
  if toInt event < 0 then
    config.warn (lit "Invalid value `" ++ value ++ lit "' in notification.events")
  else if event = mpdIdleStoredPlaylist ∨ event = mpdIdleQueue ∨ event = mpdIdleOutput then
    config.warn (lit "Event `" ++ value ++ lit "' not a supported event")
  else { config with events := config.events ||| event }

def defaultEvents : UInt32 :=
  Handled.database.mpdIdle ||| Handled.player.mpdIdle ||| Handled.mixer.mpdIdle
    ||| Handled.options.mpdIdle ||| Handled.update.mpdIdle

def loadEvents (values : Option (List Bytes)) (config : Config) : Config :=
  let config := (values.getD []).foldl (addEvent mpdIdleNameParse) config
  if config.events = 0 then { config with events := defaultEvents } else config

/-- The configuration, or the message of the error that `file_load` fails with; `home` is the
variable `HOME`. -/
def fileLoad (home : Option Bytes) (fd : KeyFile) : Except Bytes Config := do
  let coverPath ← loadText fd (lit "cover_path")
  let coverSuffix ← loadText fd (lit "cover_suffix")
  let timeout ← loadText fd (lit "timeout")
  let type ← loadText fd (lit "type")
  let urgency ← loadText fd (lit "urgency")
  let hints ← loadStringList fd (lit "hints") (lit "notification.hints")
  let values ← loadStringList fd (lit "events") (lit "notification.events")
  let config : Config :=
    { events := 0
      coverPath := coverPath <|> home.map fun home => buildFilename home (lit ".covers")
      coverSuffix := coverSuffix.getD (lit "jpg")
      timeout := timeout
      type := type
      urgency := urgency
      hints := hints
      warnings := [] }
  return loadEvents mpdIdleNameParse values config

/-! ### Which events are enabled -/

/-- The event is in `file_config.events`. -/
def Config.Configured (config : Config) (event : Handled) : Prop :=
  config.events &&& event.mpdIdle ≠ 0

instance (config : Config) (event : Handled) : Decidable (config.Configured event) :=
  inferInstanceAs (Decidable (_ ≠ _))

/-- A value of the list that is not skipped. -/
def Accepted (value : Bytes) : Prop :=
  0 ≤ toInt (mpdIdleNameParse value) ∧ mpdIdleNameParse value ≠ mpdIdleStoredPlaylist ∧
    mpdIdleNameParse value ≠ mpdIdleQueue ∧ mpdIdleNameParse value ≠ mpdIdleOutput

theorem or_and_ne_zero (first second mask : UInt32) :
    (first ||| second) &&& mask ≠ 0 ↔ first &&& mask ≠ 0 ∨ second &&& mask ≠ 0 := by
  have distributed : (first ||| second) &&& mask = first &&& mask ||| second &&& mask := by
    apply UInt32.toBitVec_inj.mp
    exact BitVec.and_or_distrib_right
  rw [distributed, ne_eq, UInt32.or_eq_zero_iff, not_and_or]

theorem addEvent_events (config : Config) (value : Bytes) (mask : UInt32) :
    (addEvent mpdIdleNameParse config value).events &&& mask ≠ 0 ↔
      config.events &&& mask ≠ 0 ∨
        Accepted mpdIdleNameParse value ∧ mpdIdleNameParse value &&& mask ≠ 0 := by
  rw [addEvent, Accepted]
  by_cases negative : toInt (mpdIdleNameParse value) < 0
  · have refused : ¬ 0 ≤ toInt (mpdIdleNameParse value) := Int.not_le.mpr negative
    rw [if_pos negative]
    simp only [refused, false_and, or_false]
    rfl
  · by_cases skipped : mpdIdleNameParse value = mpdIdleStoredPlaylist ∨
        mpdIdleNameParse value = mpdIdleQueue ∨ mpdIdleNameParse value = mpdIdleOutput
    · rw [if_neg negative, if_pos skipped]
      have refused : ¬ (mpdIdleNameParse value ≠ mpdIdleStoredPlaylist ∧
          mpdIdleNameParse value ≠ mpdIdleQueue ∧ mpdIdleNameParse value ≠ mpdIdleOutput) := by
        tauto
      simp only [refused, and_false, false_and, or_false]
      rfl
    · rw [if_neg negative, if_neg skipped, or_and_ne_zero]
      rw [not_or, not_or] at skipped
      simp only [Int.not_lt.mp negative, skipped, ne_eq, not_false_eq_true, true_and]

theorem addEvents_events (mask : UInt32) (values : List Bytes) : ∀ config : Config,
    (values.foldl (addEvent mpdIdleNameParse) config).events &&& mask ≠ 0 ↔
      config.events &&& mask ≠ 0 ∨ ∃ value ∈ values,
        Accepted mpdIdleNameParse value ∧ mpdIdleNameParse value &&& mask ≠ 0 := by
  induction values with
  | nil => simp
  | cons value values ih =>
      intro config
      rw [List.foldl_cons, ih, addEvent_events, or_assoc]
      simp only [List.mem_cons, exists_eq_or_imp]

/-- A list enables the events that its accepted values name, and all five if they name none. -/
def Enables (values : List Bytes) (event : Handled) : Prop :=
  (∃ value ∈ values, Accepted mpdIdleNameParse value ∧
    mpdIdleNameParse value &&& event.mpdIdle ≠ 0) ∨
  ∀ value ∈ values, Accepted mpdIdleNameParse value → mpdIdleNameParse value = 0

theorem loadEvents_configured (values : Option (List Bytes)) (config : Config)
    (start : config.events = 0) (event : Handled) :
    (loadEvents mpdIdleNameParse values config).Configured event ↔
      Enables mpdIdleNameParse (values.getD []) event := by
  have given (mask : UInt32) := addEvents_events mpdIdleNameParse mask (values.getD []) config
  simp only [start, UInt32.zero_and, ne_eq, not_true_eq_false, false_or] at given
  have none : ((values.getD []).foldl (addEvent mpdIdleNameParse) config).events = 0 ↔
      ∀ value ∈ values.getD [], Accepted mpdIdleNameParse value → mpdIdleNameParse value = 0 := by
    have all := given (-1)
    simp only [UInt32.and_neg_one] at all
    rw [← not_iff_not, all]
    push Not
    rfl
  rw [Config.Configured, loadEvents]
  by_cases empty : ((values.getD []).foldl (addEvent mpdIdleNameParse) config).events = 0
  · rw [if_pos empty]
    have whole : defaultEvents &&& event.mpdIdle ≠ 0 := by cases event <;> decide
    exact ⟨fun _ => Or.inr (none.mp empty), fun _ => whole⟩
  · rw [if_neg empty, ne_eq, given, Enables, or_iff_left (mt none.mpr empty)]

/-- The events that a loaded configuration enables: those that the list names, or all five. -/
theorem fileLoad_configured (home : Option Bytes) (fd : KeyFile) (config : Config)
    (loaded : fileLoad mpdIdleNameParse home fd = .ok config) (event : Handled) :
    config.Configured event ↔
      Enables mpdIdleNameParse ((fd.list (lit "events")).getD []) event := by
  obtain ⟨coverPath, -, loaded⟩ := Triple.bind_ok loaded
  obtain ⟨coverSuffix, -, loaded⟩ := Triple.bind_ok loaded
  obtain ⟨timeout, -, loaded⟩ := Triple.bind_ok loaded
  obtain ⟨type, -, loaded⟩ := Triple.bind_ok loaded
  obtain ⟨urgency, -, loaded⟩ := Triple.bind_ok loaded
  obtain ⟨hints, -, loaded⟩ := Triple.bind_ok loaded
  obtain ⟨values, valuesLoaded, loaded⟩ := Triple.bind_ok loaded
  cases loaded
  rw [← loadStringList_ok fd _ _ values valuesLoaded]
  exact loadEvents_configured mpdIdleNameParse values _ rfl event

end Events

end Mpdcron.Notification
