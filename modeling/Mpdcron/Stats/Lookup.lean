import Mathlib.Data.List.Nodup
import Mpdcron.Stats.Process

/-! `command_lookup` against a linear scan of `commands`. The table is in the order of `strcmp`
but for the entries of `rate`, whose last three come before those of `rate_absolute`. -/

namespace Mpdcron.Stats

open CString

section Lookup

variable {Db : Type}

def linearLookup (table : List (Command Db)) (name : Bytes) : Option (Command Db) :=
  table.find? fun entry => entry.cmd = name

/-- The index at which the loop of `command_lookup` stops. -/
def lookupIndex (names : List Bytes) (name : Bytes) : Nat → Nat → Nat → Option Nat
  | 0, _, _ => none
  | fuel + 1, a, b =>
      match names[(a + b) / 2]? with
      | none => none
      | some cmd =>
          match strcmp name cmd with
          | .eq => some ((a + b) / 2)
          | .lt => if a < (a + b) / 2 then lookupIndex names name fuel a ((a + b) / 2) else none
          | .gt =>
              if (a + b) / 2 + 1 < b then lookupIndex names name fuel ((a + b) / 2 + 1) b else none

/-- The search reads nothing but the names. -/
theorem commandLookupLoop_index (table : List (Command Db)) (name : Bytes) (fuel a b : Nat) :
    commandLookupLoop table name fuel a b
      = (lookupIndex (table.map Command.cmd) name fuel a b).bind (table[·]?) := by
  induction fuel generalizing a b with
  | zero => rfl
  | succ fuel ih =>
      rw [commandLookupLoop, lookupIndex, List.getElem?_map]
      cases middle : table[(a + b) / 2]? with
      | none => rfl
      | some entry =>
          dsimp only [Option.map]
          cases strcmp name entry.cmd with
          | eq => exact middle.symm
          | lt =>
              dsimp only
              split
              · exact ih a _
              · rfl
          | gt =>
              dsimp only
              split
              · exact ih _ b
              · rfl

theorem linearLookup_at (table : List (Command Db)) (distinct : (table.map Command.cmd).Nodup)
    (entry : Command Db) (listed : entry ∈ table) :
    linearLookup table entry.cmd = some entry := by
  rw [linearLookup]
  cases found : table.find? fun other => other.cmd = entry.cmd with
  | none =>
      have absent := List.find?_eq_none.mp found entry listed
      simp at absent
  | some other =>
      have named : other.cmd = entry.cmd := by
        simpa using List.find?_some found
      rw [List.inj_on_of_nodup_map distinct (List.mem_of_find?_eq_some found) listed named]

/-! ### The table -/

def commandNames : List Bytes :=
  [lit "addtag", lit "addtag_album", lit "addtag_artist", lit "addtag_genre",
    lit "count", lit "count_album", lit "count_artist", lit "count_genre",
    lit "hate", lit "hate_album", lit "hate_artist", lit "hate_genre",
    lit "karma",
    lit "kill", lit "kill_album", lit "kill_artist", lit "kill_genre",
    lit "list", lit "list_album", lit "list_artist", lit "list_genre",
    lit "listinfo", lit "listinfo_album", lit "listinfo_artist", lit "listinfo_genre",
    lit "listtags", lit "listtags_album", lit "listtags_artist", lit "listtags_genre",
    lit "love", lit "love_album", lit "love_artist", lit "love_genre",
    lit "password",
    lit "rate", lit "rate_album", lit "rate_artist", lit "rate_genre",
    lit "rate_absolute", lit "rate_absolute_album", lit "rate_absolute_artist",
    lit "rate_absolute_genre",
    lit "rmtag", lit "rmtag_album", lit "rmtag_artist", lit "rmtag_genre",
    lit "unkill", lit "unkill_album", lit "unkill_artist", lit "unkill_genre"]

/-- The entries that stand before smaller ones. -/
def misplaced : List Bytes := [lit "rate_album", lit "rate_artist", lit "rate_genre"]

theorem commandNames_nodup : commandNames.Nodup := by decide +kernel

theorem misplaced_listed : ∀ name ∈ misplaced, name ∈ commandNames := by decide +kernel

theorem lookupIndex_names : ∀ named ∈ commandNames.zipIdx,
    lookupIndex commandNames named.1 commandNames.length 0 commandNames.length
      = if named.1 ∈ misplaced then none else some named.2 := by
  decide +kernel

variable (host : Host Db)

theorem commands_names : (commands host).map Command.cmd = commandNames := rfl

theorem commandLookup_entry (entry : Command Db) (listed : entry ∈ commands host) :
    commandLookup host entry.cmd = if entry.cmd ∈ misplaced then none else some entry := by
  rcases List.getElem?_of_mem listed with ⟨index, there⟩
  have named : (entry.cmd, index) ∈ commandNames.zipIdx := by
    rw [List.mem_zipIdx_iff_getElem?, ← commands_names host, List.getElem?_map, there]
    rfl
  have stops := lookupIndex_names (entry.cmd, index) named
  rw [commandLookup, commandLookupLoop_index, commands_names,
    show (commands host).length = commandNames.length from rfl, stops]
  split
  · rfl
  · exact there

theorem commandLookup_unlisted (name : Bytes) (unlisted : name ∉ commandNames) :
    commandLookup host name = none := by
  cases found : commandLookup host name with
  | none => rfl
  | some entry =>
      rcases commandLookup_finds host name entry found with ⟨listed, named⟩
      have member := List.mem_map_of_mem (f := Command.cmd) listed
      rw [commands_names, named] at member
      exact (unlisted member).elim

theorem linearLookup_unlisted (name : Bytes) (unlisted : name ∉ commandNames) :
    linearLookup (commands host) name = none := by
  rw [linearLookup, List.find?_eq_none]
  intro entry listed named
  have member := List.mem_map_of_mem (f := Command.cmd) listed
  rw [commands_names, of_decide_eq_true named] at member
  exact unlisted member

theorem commandNames_entry (name : Bytes) (listed : name ∈ commandNames) :
    ∃ entry ∈ commands host, entry.cmd = name := by
  rw [← commands_names host] at listed
  exact List.mem_map.mp listed

/-- The binary search finds what a linear scan finds, but for the three misplaced entries, which
it misses. -/
theorem commandLookup_eq (name : Bytes) :
    commandLookup host name
      = if name ∈ misplaced then none else linearLookup (commands host) name := by
  by_cases listed : name ∈ commandNames
  · rcases commandNames_entry host name listed with ⟨entry, member, rfl⟩
    rw [commandLookup_entry host entry member, linearLookup_at (commands host)
      commandNames_nodup entry member]
  · rw [commandLookup_unlisted host name listed, linearLookup_unlisted host name listed]
    simp

theorem commandLookup_linear_iff (name : Bytes) :
    commandLookup host name = linearLookup (commands host) name ↔ name ∉ misplaced := by
  rw [commandLookup_eq]
  split
  · rename_i early
    rcases commandNames_entry host name (misplaced_listed name early) with ⟨entry, member, rfl⟩
    rw [linearLookup_at (commands host) commandNames_nodup entry member]
    simp [early]
  · rename_i inOrder
    simp [inOrder]

end Lookup

end Mpdcron.Stats
