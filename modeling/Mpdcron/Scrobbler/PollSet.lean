import Mathlib.Data.Finset.Basic
import Mathlib.Data.List.Nodup
import Mathlib.Data.List.Perm.Basic

/-! The file descriptors that `scrobbler-curl.c` polls: the list `http_client.fds` and what the
`GSource` has registered, after `http_client_update_fds`. -/

namespace Mpdcron.AudioScrobbler

/-! ### Masks -/

def gIoIn : UInt16 := 1

def gIoOut : UInt16 := 4

def gIoErr : UInt16 := 8

def gIoHup : UInt16 := 16

/-- The three sets that `curl_multi_fdset` fills. -/
structure FdSets where
  rfds : Finset Nat
  wfds : Finset Nat
  efds : Finset Nat

/-- The events of a descriptor, and the sets without it. -/
def httpClientFdEvents (fd : Nat) (sets : FdSets) : UInt16 × FdSets :=
  let events := 0
  let (events, sets) :=
    if fd ∈ sets.rfds then
      (events ||| (gIoIn ||| gIoHup ||| gIoErr), { sets with rfds := sets.rfds.erase fd })
    else (events, sets)
  let (events, sets) :=
    if fd ∈ sets.wfds then
      (events ||| (gIoOut ||| gIoErr), { sets with wfds := sets.wfds.erase fd })
    else (events, sets)
  if fd ∈ sets.efds then
    (events ||| (gIoHup ||| gIoErr), { sets with efds := sets.efds.erase fd })
  else (events, sets)

/-! ### The two registries -/

/-- A `GPollFD`; `address` tells two allocations apart. -/
structure GPollFd where
  address : Nat
  fd : Nat
  events : UInt16
  deriving DecidableEq, Repr

/-- What was called for the entry at an address. -/
inductive PollCall where
  | gSourceAddPoll (address : Nat)
  | gSourceRemovePoll (address : Nat)
  deriving DecidableEq, Repr

def PollCall.address : PollCall → Nat
  | .gSourceAddPoll address => address
  | .gSourceRemovePoll address => address

/-- `polls` are the entries of the `GSource` as they were when they were added; `nextAddress` is
what `g_new` gives next. -/
structure HttpClientFds where
  fds : List GPollFd
  polls : List GPollFd
  nextAddress : Nat
  calls : List PollCall
  deriving DecidableEq, Repr

def HttpClientFds.init : HttpClientFds := ⟨[], [], 0, []⟩

def gSourceAddPoll (pollFd : GPollFd) (client : HttpClientFds) : HttpClientFds :=
  { client with
    polls := pollFd :: client.polls
    calls := client.calls ++ [.gSourceAddPoll pollFd.address] }

def gSourceRemovePoll (pollFd : GPollFd) (client : HttpClientFds) : HttpClientFds :=
  { client with
    polls := client.polls.eraseP (·.address = pollFd.address)
    calls := client.calls ++ [.gSourceRemovePoll pollFd.address] }

def gSlistPrepend (pollFd : GPollFd) (client : HttpClientFds) : HttpClientFds :=
  { client with fds := pollFd :: client.fds }

/-- The `while` loop over the entries that were there; none where its assertion fails. -/
def updateOldFds : List GPollFd → FdSets → HttpClientFds → Option (FdSets × HttpClientFds)
  | [], sets, client => some (sets, client)
  | pollFd :: fds, sets, client =>
      let (events, sets) := httpClientFdEvents pollFd.fd sets
      if pollFd.events ≠ 0 then
        let client := if events ≠ pollFd.events then gSourceRemovePoll pollFd client else client
        if events ≠ 0 then
          let (pollFd, client) :=
            if events ≠ pollFd.events then
              let pollFd := { pollFd with events := events }
              (pollFd, gSourceAddPoll pollFd client)
            else (pollFd, client)
          updateOldFds fds sets (gSlistPrepend pollFd client)
        else updateOldFds fds sets client
      else none

/-- The `for` loop from `fd` on, `count` times. -/
def addNewFds (fd : Nat) : Nat → FdSets → HttpClientFds → HttpClientFds
  | 0, _, client => client
  | count + 1, sets, client =>
      let (events, sets) := httpClientFdEvents fd sets
      if events ≠ 0 then
        let pollFd : GPollFd := ⟨client.nextAddress, fd, events⟩
        let client := { client with nextAddress := client.nextAddress + 1 }
        addNewFds (fd + 1) count sets (gSlistPrepend pollFd (gSourceAddPoll pollFd client))
      else addNewFds (fd + 1) count sets client

/-- `report` is what `curl_multi_fdset` gives, if it succeeds: the sets and `max_fd`. -/
def httpClientUpdateFds (report : Option (FdSets × Int)) (client : HttpClientFds) :
    Option HttpClientFds :=
  match report with
  | none => some client
  | some (sets, maxFd) => do
      let (sets, client) ← updateOldFds client.fds sets { client with fds := [] }
      return addNewFds 0 (maxFd + 1).toNat sets client

/-! ### What a descriptor is polled for -/

/-- The union of the masks of the sets that a descriptor is in. -/
def FdSets.mask (sets : FdSets) (fd : Nat) : UInt16 :=
  (if fd ∈ sets.rfds then gIoIn ||| gIoHup ||| gIoErr else 0)
    ||| (if fd ∈ sets.wfds then gIoOut ||| gIoErr else 0)
    ||| (if fd ∈ sets.efds then gIoHup ||| gIoErr else 0)

def FdSets.without (sets : FdSets) (fd : Nat) : FdSets :=
  ⟨sets.rfds.erase fd, sets.wfds.erase fd, sets.efds.erase fd⟩

theorem httpClientFdEvents_eq (fd : Nat) (sets : FdSets) :
    httpClientFdEvents fd sets = (sets.mask fd, sets.without fd) := by
  rcases sets with ⟨rfds, wfds, efds⟩
  simp only [httpClientFdEvents, FdSets.mask, FdSets.without]
  by_cases inRead : fd ∈ rfds <;> by_cases inWrite : fd ∈ wfds <;> by_cases inError : fd ∈ efds <;>
    simp [inRead, inWrite, inError]

/-- A descriptor is polled for something if and only if it is in one of the sets. -/
theorem FdSets.mask_ne_zero (sets : FdSets) (fd : Nat) :
    sets.mask fd ≠ 0 ↔ fd ∈ sets.rfds ∪ sets.wfds ∪ sets.efds := by
  rw [FdSets.mask, Finset.mem_union, Finset.mem_union]
  by_cases inRead : fd ∈ sets.rfds <;> by_cases inWrite : fd ∈ sets.wfds <;>
    by_cases inError : fd ∈ sets.efds <;> simp [inRead, inWrite, inError] <;> decide

theorem FdSets.mask_without (sets : FdSets) (fd other : Nat) :
    (sets.without fd).mask other = if other = fd then 0 else sets.mask other := by
  by_cases same : other = fd
  · simp [FdSets.mask, FdSets.without, same]
  · simp [FdSets.mask, FdSets.without, same]

/-! ### The entries that were there -/

/-- What becomes of an entry. -/
def renewed (sets : FdSets) (pollFd : GPollFd) : Option GPollFd :=
  if sets.mask pollFd.fd = 0 then none else some { pollFd with events := sets.mask pollFd.fd }

/-- One turn of the first loop. -/
def updateOldFd (events : UInt16) (pollFd : GPollFd) (client : HttpClientFds) : HttpClientFds :=
  if events = pollFd.events then gSlistPrepend pollFd client
  else
    let client := gSourceRemovePoll pollFd client
    if events = 0 then client
    else
      let pollFd := { pollFd with events := events }
      gSlistPrepend pollFd (gSourceAddPoll pollFd client)

theorem updateOldFds_cons (pollFd : GPollFd) (fds : List GPollFd) (sets : FdSets)
    (client : HttpClientFds) (nonzero : pollFd.events ≠ 0) :
    updateOldFds (pollFd :: fds) sets client
      = updateOldFds fds (sets.without pollFd.fd)
        (updateOldFd (sets.mask pollFd.fd) pollFd client) := by
  simp only [updateOldFds, httpClientFdEvents_eq, updateOldFd]
  rw [if_pos nonzero]
  by_cases same : sets.mask pollFd.fd = pollFd.events
  · simp [same, nonzero]
  · by_cases gone : sets.mask pollFd.fd = 0
    · simp [gone, nonzero.symm]
    · simp [same, gone]

/-- An entry that keeps its mask is left alone; any other leaves the source, and comes back with
its new mask if it has one. -/
theorem updateOldFd_spec (sets : FdSets) (pollFd : GPollFd) (fds : List GPollFd)
    (client : HttpClientFds) (nonzero : pollFd.events ≠ 0)
    (inStep : client.polls.Perm (pollFd :: (fds ++ client.fds)))
    (addresses : ((pollFd :: (fds ++ client.fds)).map GPollFd.address).Nodup) :
    let next := updateOldFd (sets.mask pollFd.fd) pollFd client
    next.fds = (renewed sets pollFd).toList ++ client.fds ∧
      next.polls.Perm (fds ++ next.fds) ∧ next.nextAddress = client.nextAddress ∧
      ∃ made, next.calls = client.calls ++ made ∧ ∀ call ∈ made,
        call.address = pollFd.address ∧ sets.mask pollFd.fd ≠ pollFd.events := by
  have removed : (client.polls.eraseP (·.address = pollFd.address)).Perm (fds ++ client.fds) := by
    have distinct : client.polls.Pairwise fun first second =>
        first.address = pollFd.address → second.address = pollFd.address → False := by
      have perm := inStep.map GPollFd.address
      have nodup := perm.nodup_iff.mpr addresses
      apply (List.pairwise_map.mp nodup).imp
      intro first second apart isFirst isSecond
      exact apart (isFirst.trans isSecond.symm)
    have erased := inStep.eraseP (fun entry => entry.address = pollFd.address) (by simpa using distinct)
    rwa [List.eraseP_cons_of_pos (by simp)] at erased
  simp only [updateOldFd, renewed]
  by_cases same : sets.mask pollFd.fd = pollFd.events
  · rw [if_pos same, same, if_neg nonzero]
    refine ⟨rfl, ?_, rfl, [], (List.append_nil _).symm, by simp⟩
    exact inStep.trans List.perm_middle.symm
  · rw [if_neg same]
    by_cases gone : sets.mask pollFd.fd = 0
    · rw [if_pos gone, if_pos gone]
      exact ⟨rfl, removed, rfl, [.gSourceRemovePoll pollFd.address], rfl,
        by simp [PollCall.address, same]⟩
    · rw [if_neg gone, if_neg gone]
      refine ⟨rfl, ?_, rfl, [.gSourceRemovePoll pollFd.address, .gSourceAddPoll pollFd.address],
        ?_, by simp [PollCall.address, same]⟩
      · exact (removed.cons _).trans List.perm_middle.symm
      · simp [gSlistPrepend, gSourceAddPoll, gSourceRemovePoll]

theorem renewed_cases (sets : FdSets) (pollFd : GPollFd) :
    (sets.mask pollFd.fd = 0 ∧ renewed sets pollFd = none) ∨
      (sets.mask pollFd.fd ≠ 0 ∧
        renewed sets pollFd = some { pollFd with events := sets.mask pollFd.fd }) := by
  rw [renewed]
  by_cases gone : sets.mask pollFd.fd = 0
  · exact Or.inl ⟨gone, if_pos gone⟩
  · exact Or.inr ⟨gone, if_neg gone⟩

theorem renewed_addresses (sets : FdSets) (pollFd : GPollFd) (fds others : List GPollFd)
    (addresses : ((pollFd :: (fds ++ others)).map GPollFd.address).Nodup) :
    ((fds ++ ((renewed sets pollFd).toList ++ others)).map GPollFd.address).Nodup := by
  rcases renewed_cases sets pollFd with ⟨-, gone⟩ | ⟨-, kept⟩
  · rw [gone]
    exact (List.nodup_cons.mp addresses).2
  · have moved : ((fds ++ ({ pollFd with events := sets.mask pollFd.fd } :: others)).map
        GPollFd.address).Perm ((pollFd :: (fds ++ others)).map GPollFd.address) :=
      List.perm_middle.map GPollFd.address
    rw [kept]
    exact moved.nodup_iff.mpr addresses

theorem updateOldFds_spec (fds : List GPollFd) : ∀ (sets : FdSets) (client : HttpClientFds),
    (fds.map GPollFd.fd).Nodup → (∀ pollFd ∈ fds, pollFd.events ≠ 0) →
    client.polls.Perm (fds ++ client.fds) →
    ((fds ++ client.fds).map GPollFd.address).Nodup →
    ∃ left next made, updateOldFds fds sets client = some (left, next) ∧
      (∀ fd, left.mask fd = if fd ∈ fds.map GPollFd.fd then 0 else sets.mask fd) ∧
      next.fds = (fds.filterMap (renewed sets)).reverse ++ client.fds ∧
      next.polls.Perm next.fds ∧ next.nextAddress = client.nextAddress ∧
      next.calls = client.calls ++ made ∧ ∀ call ∈ made, ∃ pollFd ∈ fds,
        call.address = pollFd.address ∧ sets.mask pollFd.fd ≠ pollFd.events := by
  induction fds with
  | nil =>
      intro sets client _ _ inStep _
      exact ⟨sets, client, [], rfl, by simp, rfl, inStep, rfl, (List.append_nil _).symm, by simp⟩
  | cons pollFd fds ih =>
      intro sets client distinct nonzero inStep addresses
      rw [List.map_cons, List.nodup_cons] at distinct
      rw [List.forall_mem_cons] at nonzero
      rw [updateOldFds_cons pollFd fds sets client nonzero.1]
      rcases updateOldFd_spec sets pollFd fds client nonzero.1 inStep addresses with
        ⟨kept, stillInStep, allocated, made, calls, about⟩
      have others (other : GPollFd) (member : other ∈ fds) :
          (sets.without pollFd.fd).mask other.fd = sets.mask other.fd := by
        rw [FdSets.mask_without, if_neg]
        intro same
        exact distinct.1 (same ▸ List.mem_map_of_mem member)
      have stillDistinct : ((fds ++ (updateOldFd (sets.mask pollFd.fd) pollFd client).fds).map
          GPollFd.address).Nodup := by
        rw [kept]
        exact renewed_addresses sets pollFd fds client.fds addresses
      rcases ih (sets.without pollFd.fd) _ distinct.2 nonzero.2 stillInStep stillDistinct with
        ⟨left, next, later, updated, masks, fdsAfter, pollsAfter, allocatedAfter, callsAfter, aboutLater⟩
      refine ⟨left, next, made ++ later, updated, ?_, ?_, pollsAfter, ?_, ?_, ?_⟩
      · intro fd
        simp only [masks, FdSets.mask_without, List.map_cons, List.mem_cons]
        by_cases same : fd = pollFd.fd
        · simp [same]
        · simp [same]
      · have later : fds.filterMap (renewed (sets.without pollFd.fd))
            = fds.filterMap (renewed sets) := by
          apply List.filterMap_congr
          intro other member
          rw [renewed, renewed, others other member]
        rw [fdsAfter, kept, later]
        cases entry : renewed sets pollFd with
        | none => simp [List.filterMap_cons_none entry]
        | some renewed => simp [List.filterMap_cons_some entry]
      · exact allocatedAfter.trans allocated
      · rw [callsAfter, calls, List.append_assoc]
      · intro call member
        rcases List.mem_append.mp member with now | after
        · exact ⟨pollFd, List.mem_cons_self, about call now⟩
        · rcases aboutLater call after with ⟨other, isOther, address, changed⟩
          rw [others other isOther] at changed
          exact ⟨other, List.mem_cons_of_mem _ isOther, address, changed⟩

/-! ### New entries -/

/-- What the second loop prepends: an entry for each descriptor that is left in the sets. -/
structure Created (fd count : Nat) (sets : FdSets) (client next : HttpClientFds)
    (created : List GPollFd) : Prop where
  fds : next.fds = created ++ client.fds
  inStep : next.polls.Perm next.fds
  distinct : (created.map GPollFd.fd).Nodup
  addresses : (created.map GPollFd.address).Nodup
  entries : ∀ pollFd ∈ created, (fd ≤ pollFd.fd ∧ pollFd.fd < fd + count) ∧
    pollFd.events = sets.mask pollFd.fd ∧ pollFd.events ≠ 0
  fresh : ∀ pollFd ∈ created,
    client.nextAddress ≤ pollFd.address ∧ pollFd.address < next.nextAddress
  all : ∀ other, fd ≤ other → other < fd + count → sets.mask other ≠ 0 →
    ∃ pollFd ∈ created, pollFd.fd = other
  allocated : client.nextAddress ≤ next.nextAddress
  calls : ∃ made, next.calls = client.calls ++ made ∧
    ∀ call ∈ made, client.nextAddress ≤ call.address

theorem mask_later (sets : FdSets) (fd other : Nat) (after : fd + 1 ≤ other) :
    (sets.without fd).mask other = sets.mask other := by
  rw [FdSets.mask_without, if_neg (by omega)]

/-- A descriptor that is in no set gets no entry. -/
theorem Created.skip {fd count : Nat} {sets : FdSets} {client next : HttpClientFds}
    {created : List GPollFd} (empty : sets.mask fd = 0)
    (rest : Created (fd + 1) count (sets.without fd) client next created) :
    Created fd (count + 1) sets client next created := by
  refine ⟨rest.fds, rest.inStep, rest.distinct, rest.addresses, ?_, rest.fresh, ?_, rest.allocated,
    rest.calls⟩
  · intro pollFd member
    rcases rest.entries pollFd member with ⟨⟨low, high⟩, events, nonzero⟩
    rw [mask_later sets fd pollFd.fd low] at events
    exact ⟨⟨by omega, by omega⟩, events, nonzero⟩
  · intro other low high set
    have later : fd + 1 ≤ other := by
      rcases Nat.lt_or_eq_of_le low with less | same
      · exact less
      · exact absurd empty (same ▸ set)
    rw [← mask_later sets fd other later] at set
    exact rest.all other later (by omega) set

/-- What `g_new`, `g_source_add_poll` and `g_slist_prepend` do for a descriptor. -/
def HttpClientFds.create (fd : Nat) (events : UInt16) (client : HttpClientFds) : HttpClientFds :=
  let pollFd : GPollFd := ⟨client.nextAddress, fd, events⟩
  gSlistPrepend pollFd
    (gSourceAddPoll pollFd { client with nextAddress := client.nextAddress + 1 })

/-- One more entry keeps the keys distinct where those of the others are greater. -/
theorem nodup_concat_key (key : GPollFd → Nat) (created : List GPollFd) (entry : GPollFd)
    (distinct : (created.map key).Nodup) (greater : ∀ pollFd ∈ created, key entry < key pollFd) :
    ((created ++ [entry]).map key).Nodup := by
  rw [List.map_append, List.nodup_append]
  refine ⟨distinct, List.nodup_singleton _, ?_⟩
  intro number member other isEntry same
  rcases List.mem_map.mp member with ⟨pollFd, isCreated, rfl⟩
  have less := greater pollFd isCreated
  have here : other = key entry := List.mem_singleton.mp isEntry
  omega

theorem Created.create {fd count : Nat} {sets : FdSets} {client next : HttpClientFds}
    {created : List GPollFd} (nonzero : sets.mask fd ≠ 0)
    (rest : Created (fd + 1) count (sets.without fd) (client.create fd (sets.mask fd)) next created) :
    Created fd (count + 1) sets client next (created ++ [⟨client.nextAddress, fd, sets.mask fd⟩]) := by
  have grown : client.nextAddress + 1 ≤ next.nextAddress := rest.allocated
  have fresh (pollFd : GPollFd) (member : pollFd ∈ created) :
      client.nextAddress + 1 ≤ pollFd.address ∧ pollFd.address < next.nextAddress :=
    rest.fresh pollFd member
  have fds : next.fds = created ++ ⟨client.nextAddress, fd, sets.mask fd⟩ :: client.fds := rest.fds
  constructor
  · rw [fds, List.append_assoc]
    rfl
  · exact rest.inStep
  · exact nodup_concat_key GPollFd.fd created _ rest.distinct
      (fun pollFd member => (rest.entries pollFd member).1.1)
  · exact nodup_concat_key GPollFd.address created _ rest.addresses
      (fun pollFd member => (fresh pollFd member).1)
  · intro pollFd member
    rcases List.mem_append.mp member with later | new
    · rcases rest.entries pollFd later with ⟨⟨low, high⟩, events, nonzero⟩
      rw [mask_later sets fd pollFd.fd low] at events
      exact ⟨⟨by omega, by omega⟩, events, nonzero⟩
    · rw [List.mem_singleton.mp new]
      exact ⟨⟨Nat.le_refl _, Nat.lt_add_of_pos_right (Nat.succ_pos count)⟩, rfl, nonzero⟩
  · intro pollFd member
    rcases List.mem_append.mp member with later | new
    · have bounds := fresh pollFd later
      exact ⟨by omega, bounds.2⟩
    · rw [List.mem_singleton.mp new]
      exact ⟨Nat.le_refl _, grown⟩
  · intro other low high set
    rcases Nat.lt_or_eq_of_le low with less | same
    · rw [← mask_later sets fd other less] at set
      rcases rest.all other less (by omega) set with ⟨pollFd, isCreated, isFd⟩
      exact ⟨pollFd, List.mem_append_left _ isCreated, isFd⟩
    · exact ⟨_, List.mem_append_right _ List.mem_cons_self, same⟩
  · omega
  · rcases rest.calls with ⟨made, calls, about⟩
    refine ⟨.gSourceAddPoll client.nextAddress :: made, ?_, ?_⟩
    · rw [calls]
      exact List.append_assoc _ [_] made
    · rw [List.forall_mem_cons]
      refine ⟨Nat.le_refl _, ?_⟩
      intro call member
      have after : client.nextAddress + 1 ≤ call.address := about call member
      omega

theorem addNewFds_succ (fd count : Nat) (sets : FdSets) (client : HttpClientFds) :
    addNewFds fd (count + 1) sets client =
      addNewFds (fd + 1) count (sets.without fd)
        (if sets.mask fd = 0 then client else client.create fd (sets.mask fd)) := by
  rw [addNewFds, httpClientFdEvents_eq]
  dsimp only
  by_cases empty : sets.mask fd = 0
  · rw [if_pos empty, if_neg (not_not.mpr empty)]
  · rw [if_neg empty, if_pos empty]
    rfl

theorem addNewFds_created (count : Nat) : ∀ (fd : Nat) (sets : FdSets) (client : HttpClientFds),
    client.polls.Perm client.fds →
    ∃ created, Created fd count sets client (addNewFds fd count sets client) created := by
  induction count with
  | zero =>
      intro fd sets client inStep
      refine ⟨[], rfl, inStep, List.nodup_nil, List.nodup_nil, by simp, by simp, ?_, Nat.le_refl _,
        [], (List.append_nil _).symm, by simp⟩
      intro other low high
      omega
  | succ count ih =>
      intro fd sets client inStep
      rw [addNewFds_succ]
      by_cases empty : sets.mask fd = 0
      · rw [if_pos empty]
        rcases ih (fd + 1) (sets.without fd) client inStep with ⟨created, rest⟩
        exact ⟨created, rest.skip empty⟩
      · rw [if_neg empty]
        rcases ih (fd + 1) (sets.without fd) (client.create fd (sets.mask fd)) (inStep.cons _) with
          ⟨created, rest⟩
        exact ⟨_, rest.create empty⟩

/-! ### The update as a whole -/

/-- The list and the source have the same entries, one for a descriptor. -/
structure Registered (client : HttpClientFds) : Prop where
  distinct : (client.fds.map GPollFd.fd).Nodup
  nonzero : ∀ pollFd ∈ client.fds, pollFd.events ≠ 0
  inStep : client.polls.Perm client.fds
  addresses : (client.fds.map GPollFd.address).Nodup
  allocated : ∀ pollFd ∈ client.fds, pollFd.address < client.nextAddress

/-- One entry for each descriptor in the sets, with its mask, and no other. -/
structure Rebuilt (sets : FdSets) (entries : List GPollFd) : Prop where
  single : (entries.map GPollFd.fd).Nodup
  whole : ∀ fd events, (∃ pollFd ∈ entries, pollFd.fd = fd ∧ pollFd.events = events) ↔
    fd ∈ sets.rfds ∪ sets.wfds ∪ sets.efds ∧ events = sets.mask fd

/-- `curl_multi_fdset` gives the greatest descriptor of the sets, or -1 where they are empty. -/
def Bounded (sets : FdSets) (maxFd : Int) : Prop :=
  ∀ fd ∈ sets.rfds ∪ sets.wfds ∪ sets.efds, (fd : Int) ≤ maxFd

/-- What an update leaves, and which entries it was called for. -/
structure Updated (sets : FdSets) (client next : HttpClientFds) : Prop where
  registered : Registered next
  fds : Rebuilt sets next.fds
  polls : Rebuilt sets next.polls
  unchanged : ∃ made, next.calls = client.calls ++ made ∧ ∀ pollFd ∈ client.fds,
    sets.mask pollFd.fd = pollFd.events →
      pollFd ∈ next.fds ∧ pollFd ∈ next.polls ∧ ∀ call ∈ made, call.address ≠ pollFd.address

theorem Rebuilt.perm {sets : FdSets} {entries others : List GPollFd}
    (rebuilt : Rebuilt sets entries) (same : others.Perm entries) : Rebuilt sets others := by
  refine ⟨(same.map GPollFd.fd).nodup_iff.mpr rebuilt.single, ?_⟩
  intro fd events
  rw [← rebuilt.whole fd events]
  simp only [same.mem_iff]

theorem renewed_eq_some {sets : FdSets} {pollFd entry : GPollFd}
    (isRenewed : renewed sets pollFd = some entry) :
    sets.mask pollFd.fd ≠ 0 ∧ entry = { pollFd with events := sets.mask pollFd.fd } := by
  rcases renewed_cases sets pollFd with ⟨-, gone⟩ | ⟨nonzero, kept⟩
  · rw [gone] at isRenewed
    cases isRenewed
  · rw [kept] at isRenewed
    exact ⟨nonzero, (Option.some.inj isRenewed).symm⟩

theorem renewed_nodup (sets : FdSets) (key : GPollFd → Nat)
    (same : ∀ pollFd : GPollFd, key { pollFd with events := sets.mask pollFd.fd } = key pollFd)
    (fds : List GPollFd) (distinct : (fds.map key).Nodup) :
    ((fds.filterMap (renewed sets)).map key).Nodup := by
  have thinned : ((fds.filterMap (renewed sets)).map key).Sublist (fds.map key) := by
    induction fds with
    | nil => exact List.Sublist.slnil
    | cons pollFd fds ih =>
        have later := ih (List.nodup_cons.mp distinct).2
        rcases renewed_cases sets pollFd with ⟨-, gone⟩ | ⟨-, kept⟩
        · rw [List.filterMap_cons_none gone]
          exact later.cons _
        · rw [List.filterMap_cons_some kept, List.map_cons, List.map_cons, same]
          exact later.cons_cons _
  exact distinct.sublist thinned

/-- The new entries are for other descriptors than the old ones, so that together they are one for
each descriptor in the sets. -/
theorem rebuilt_of_created {sets left : FdSets} {fds created : List GPollFd} {count : Nat}
    {client next : HttpClientFds} (distinct : (fds.map GPollFd.fd).Nodup)
    (masks : ∀ fd, left.mask fd = if fd ∈ fds.map GPollFd.fd then 0 else sets.mask fd)
    (bounded : ∀ fd ∈ sets.rfds ∪ sets.wfds ∪ sets.efds, fd < count)
    (new : Created 0 count left client next created) :
    Rebuilt sets (created ++ (fds.filterMap (renewed sets)).reverse) := by
  have isNew (pollFd : GPollFd) (member : pollFd ∈ created) :
      pollFd.fd ∉ fds.map GPollFd.fd ∧ pollFd.events = sets.mask pollFd.fd ∧
        sets.mask pollFd.fd ≠ 0 := by
    rcases new.entries pollFd member with ⟨-, events, nonzero⟩
    rw [events, masks] at nonzero
    by_cases old : pollFd.fd ∈ fds.map GPollFd.fd
    · exact absurd (if_pos old) nonzero
    · rw [if_neg old] at nonzero
      rw [events, masks, if_neg old]
      exact ⟨old, rfl, nonzero⟩
  have isOld (entry : GPollFd) (member : entry ∈ (fds.filterMap (renewed sets)).reverse) :
      entry.fd ∈ fds.map GPollFd.fd ∧ entry.events = sets.mask entry.fd ∧
        sets.mask entry.fd ≠ 0 := by
    rcases List.mem_filterMap.mp (List.mem_reverse.mp member) with ⟨pollFd, isFd, isRenewed⟩
    rcases renewed_eq_some isRenewed with ⟨nonzero, rfl⟩
    exact ⟨List.mem_map.mpr ⟨pollFd, isFd, rfl⟩, rfl, nonzero⟩
  constructor
  · rw [List.map_append, List.map_reverse, List.nodup_append, List.nodup_reverse]
    refine ⟨new.distinct, renewed_nodup sets GPollFd.fd (fun _ => rfl) fds distinct, ?_⟩
    intro number isCreated other isKept same
    rcases List.mem_map.mp isCreated with ⟨pollFd, member, rfl⟩
    rw [← List.map_reverse] at isKept
    rcases List.mem_map.mp isKept with ⟨entry, isEntry, rfl⟩
    exact (isNew pollFd member).1 (same ▸ (isOld entry isEntry).1)
  · intro fd events
    rw [← FdSets.mask_ne_zero]
    constructor
    · intro ⟨pollFd, member, isFd, isEvents⟩
      subst isFd isEvents
      rcases List.mem_append.mp member with created | kept
      · exact ⟨(isNew pollFd created).2.2, (isNew pollFd created).2.1⟩
      · exact ⟨(isOld pollFd kept).2.2, (isOld pollFd kept).2.1⟩
    · intro ⟨nonzero, isMask⟩
      by_cases old : fd ∈ fds.map GPollFd.fd
      · rcases List.mem_map.mp old with ⟨pollFd, member, rfl⟩
        have isRenewed : renewed sets pollFd = some { pollFd with events := sets.mask pollFd.fd } :=
          if_neg nonzero
        refine ⟨_, List.mem_append_right _ (List.mem_reverse.mpr
          (List.mem_filterMap.mpr ⟨pollFd, member, isRenewed⟩)), rfl, isMask.symm⟩
      · have same : left.mask fd = sets.mask fd := by rw [masks, if_neg old]
        have below := bounded fd ((sets.mask_ne_zero fd).mp nonzero)
        rcases new.all fd (Nat.zero_le _) (by omega) (same ▸ nonzero) with ⟨pollFd, member, isFd⟩
        subst isFd
        exact ⟨pollFd, List.mem_append_left _ member, rfl, (isNew pollFd member).2.1.trans isMask.symm⟩

theorem renewed_same {sets : FdSets} {pollFd : GPollFd} (nonzero : pollFd.events ≠ 0)
    (same : sets.mask pollFd.fd = pollFd.events) : renewed sets pollFd = some pollFd := by
  rw [renewed, same, if_neg nonzero]

/-- Fresh addresses are none of the old ones. -/
theorem addresses_append {created kept : List GPollFd} (bound : Nat)
    (new : (created.map GPollFd.address).Nodup) (old : (kept.map GPollFd.address).Nodup)
    (above : ∀ pollFd ∈ created, bound ≤ pollFd.address)
    (below : ∀ pollFd ∈ kept, pollFd.address < bound) :
    ((created ++ kept).map GPollFd.address).Nodup := by
  rw [List.map_append, List.nodup_append]
  refine ⟨new, old, ?_⟩
  intro address isCreated other isKept same
  rcases List.mem_map.mp isCreated with ⟨pollFd, member, rfl⟩
  rcases List.mem_map.mp isKept with ⟨entry, isEntry, rfl⟩
  have fresh := above pollFd member
  have before := below entry isEntry
  omega

/-- The first loop calls the source for the entries that change and the second for fresh ones. -/
theorem calls_apart {sets : FdSets} {client : HttpClientFds} {early late : List PollCall}
    (registered : Registered client)
    (about : ∀ call ∈ early, ∃ pollFd ∈ client.fds,
      call.address = pollFd.address ∧ sets.mask pollFd.fd ≠ pollFd.events)
    (fresh : ∀ call ∈ late, client.nextAddress ≤ call.address) (pollFd : GPollFd)
    (member : pollFd ∈ client.fds) (same : sets.mask pollFd.fd = pollFd.events) :
    ∀ call ∈ early ++ late, call.address ≠ pollFd.address := by
  intro call isCall
  rcases List.mem_append.mp isCall with isEarly | isLate
  · rcases about call isEarly with ⟨other, isOther, address, changed⟩
    intro sameAddress
    have isSame : other = pollFd :=
      List.inj_on_of_nodup_map registered.addresses isOther member (address.symm.trans sameAddress)
    exact changed (isSame ▸ same)
  · have before := registered.allocated pollFd member
    have after := fresh call isLate
    omega

/-- The update leaves what a rebuilt list would have, and calls the source for no entry that keeps
its mask. -/
theorem httpClientUpdateFds_updated (client : HttpClientFds) (registered : Registered client)
    (sets : FdSets) (maxFd : Int) (bounded : Bounded sets maxFd) :
    ∃ next, httpClientUpdateFds (some (sets, maxFd)) client = some next ∧
      Updated sets client next := by
  rcases updateOldFds_spec client.fds sets { client with fds := [] } registered.distinct
      registered.nonzero (by simpa using registered.inStep) (by simpa using registered.addresses) with
    ⟨left, middle, early, updated, masks, kept, middleInStep, middleAllocated, calls, about⟩
  rcases addNewFds_created (maxFd + 1).toNat 0 left middle middleInStep with ⟨created, new⟩
  rw [List.append_nil] at kept
  have allocated : middle.nextAddress = client.nextAddress := middleAllocated
  have below (fd : Nat) (member : fd ∈ sets.rfds ∪ sets.wfds ∪ sets.efds) :
      fd < (maxFd + 1).toNat := by
    have := bounded fd member
    omega
  have rebuilt : Rebuilt sets (addNewFds 0 (maxFd + 1).toNat left middle).fds := by
    rw [new.fds, kept]
    exact rebuilt_of_created registered.distinct masks below new
  have oldAddress (entry : GPollFd) (member : entry ∈ middle.fds) :
      entry.address < middle.nextAddress := by
    rw [kept, List.mem_reverse] at member
    rcases List.mem_filterMap.mp member with ⟨pollFd, isFd, isRenewed⟩
    rw [(renewed_eq_some isRenewed).2, allocated]
    exact registered.allocated pollFd isFd
  refine ⟨addNewFds 0 (maxFd + 1).toNat left middle, ?_, ⟨rebuilt.single, ?_, new.inStep, ?_, ?_⟩,
    rebuilt, rebuilt.perm new.inStep, ?_⟩
  · simp only [httpClientUpdateFds, updated]
    rfl
  · intro pollFd member
    have entry := (rebuilt.whole pollFd.fd pollFd.events).mp ⟨pollFd, member, rfl, rfl⟩
    rw [entry.2]
    exact (sets.mask_ne_zero pollFd.fd).mpr entry.1
  · have oldDistinct : (middle.fds.map GPollFd.address).Nodup := by
      rw [kept, List.map_reverse, List.nodup_reverse]
      exact renewed_nodup sets GPollFd.address (fun _ => rfl) client.fds registered.addresses
    rw [new.fds]
    exact addresses_append middle.nextAddress new.addresses oldDistinct
      (fun pollFd member => (new.fresh pollFd member).1) oldAddress
  · intro pollFd member
    rw [new.fds] at member
    rcases List.mem_append.mp member with isCreated | isKept
    · exact (new.fresh pollFd isCreated).2
    · exact Nat.lt_of_lt_of_le (oldAddress pollFd isKept) new.allocated
  · rcases new.calls with ⟨late, callsAfter, fresh⟩
    refine ⟨early ++ late, ?_, ?_⟩
    · rw [callsAfter, calls, List.append_assoc]
    · intro pollFd member same
      have isKept : pollFd ∈ (addNewFds 0 (maxFd + 1).toNat left middle).fds := by
        rw [new.fds, kept]
        exact List.mem_append_right _ (List.mem_reverse.mpr (List.mem_filterMap.mpr
          ⟨pollFd, member, renewed_same (registered.nonzero pollFd member) same⟩))
      rw [allocated] at fresh
      exact ⟨isKept, new.inStep.mem_iff.mpr isKept,
        calls_apart registered about fresh pollFd member same⟩

/-! ### From the first update on -/

/-- The lists that updates lead to, whatever libcurl reports. -/
inductive Reachable : HttpClientFds → Prop
  | init : Reachable HttpClientFds.init
  | failed {client next : HttpClientFds} (reachable : Reachable client)
      (update : httpClientUpdateFds none client = some next) : Reachable next
  | reported {client next : HttpClientFds} {sets : FdSets} {maxFd : Int}
      (reachable : Reachable client) (bounded : Bounded sets maxFd)
      (update : httpClientUpdateFds (some (sets, maxFd)) client = some next) : Reachable next

theorem registered_init : Registered HttpClientFds.init :=
  ⟨List.nodup_nil, by simp [HttpClientFds.init], List.Perm.refl _, List.nodup_nil,
    by simp [HttpClientFds.init]⟩

theorem Reachable.registered {client : HttpClientFds} (reachable : Reachable client) :
    Registered client := by
  induction reachable with
  | init => exact registered_init
  | failed _ update ih => exact Option.some.inj update ▸ ih
  | @reported client next sets maxFd _ bounded update ih =>
      rcases httpClientUpdateFds_updated client ih sets maxFd bounded with ⟨after, isNext, updated⟩
      have same : after = next := Option.some.inj (isNext.symm.trans update)
      exact same ▸ updated.registered

/-- An update does what throwing the old list away and adding each descriptor would do, but for the
calls it saves; and updates lead to nothing but lists that are in step with the source. -/
theorem httpClientUpdateFds_rebuilds (client : HttpClientFds) (sets : FdSets) (maxFd : Int)
    (bounded : Bounded sets maxFd) :
    (Reachable client → Registered client) ∧
      (Registered client → ∃ next, httpClientUpdateFds (some (sets, maxFd)) client = some next ∧
        Updated sets client next) := by
  constructor
  · exact Reachable.registered
  · intro registered
    exact httpClientUpdateFds_updated client registered sets maxFd bounded

/-- One entry keeps its mask, one goes and one is new. -/
theorem httpClientUpdateFds_rebuilds_mixed :
    ∃ next, httpClientUpdateFds (some (⟨{5, 7}, {7}, ∅⟩, 7))
        ⟨[⟨0, 5, 25⟩, ⟨1, 6, 12⟩], [⟨0, 5, 25⟩, ⟨1, 6, 12⟩], 2, []⟩ = some next ∧
      Updated ⟨{5, 7}, {7}, ∅⟩ ⟨[⟨0, 5, 25⟩, ⟨1, 6, 12⟩], [⟨0, 5, 25⟩, ⟨1, 6, 12⟩], 2, []⟩ next := by
  have bounded : Bounded ⟨{5, 7}, {7}, ∅⟩ 7 := by
    have all : ∀ fd ∈ ({5, 7} ∪ {7} ∪ ∅ : Finset Nat), (fd : Int) ≤ 7 := by decide
    exact all
  apply (httpClientUpdateFds_rebuilds _ _ _ bounded).2
  exact ⟨by decide, by decide, List.Perm.refl _, by decide, by decide⟩

end Mpdcron.AudioScrobbler
