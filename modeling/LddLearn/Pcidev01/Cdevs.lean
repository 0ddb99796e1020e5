import LddLearn.Pcidev01.Runs

/-!
# The cdevs of occupied entries

Both error exits behind `pci_cdev_add` keep the entry: without a cdev of its own
when `cdev_add` fails, with a deleted one when `pci_request_regions` does. Runs in
which every probe that finds a free entry is granted both are exactly those whose
occupied entries hold registered cdevs and whose deletions find, once each, a
registered cdev.
-/

set_option autoImplicit false

namespace LddLearn.Pcidev01
open LddLearn.Linux LddLearn.Library LddLearn.Library.Run

/-! ## Property and condition -/

section Statements
variable {Dev : Type}

/-- The calls of `cdev_del`, in order: the cdev, and for whom it was registered. -/
def deletions (log : List (Event Dev CdevPtr)) : List (CdevPtr × Option Dev) :=
  log.filterMap fun
    | .cdevDel cdev owner => some (cdev, owner)
    | _ => none

/-- Every entry with a device holds the cdev registered under its minor; and no cdev was
deleted twice, or without being registered. -/
structure CdevsSound (r : RunState Dev) : Prop where
  registered : ∀ pair ∈ r.world.pciCdev, pair.pciDev ≠ none → ∃ cdev, pair.cdev = some cdev ∧
    ∃ registration ∈ r.world.kernel.cdevs cdev, registration.devno = ⟨r.world.major, pair.minor⟩
  once : ((deletions r.world.kernel.log).map (·.1)).Nodup
  found : ∀ deletion ∈ deletions r.world.kernel.log, deletion.2 ≠ none

/-- A probe that finds a free entry is granted its cdev and its regions. -/
def GrantsProbe (r : RunState Dev) : Callback Dev → Prop
  | .probe _ answers => (∃ pair ∈ r.world.pciCdev, pair.pciDev = none) →
    answers.cdevAdd = .ok ∧ answers.regions = .ok
  | _ => True

instance [DecidableEq Dev] (r : RunState Dev) : ∀ c : Callback Dev, Decidable (GrantsProbe r c)
  | .probe _ answers => inferInstanceAs (Decidable ((∃ pair ∈ r.world.pciCdev, pair.pciDev = none) →
      answers.cdevAdd = .ok ∧ answers.regions = .ok))
  | .remove _ => isTrue trivial
  | .unload _ => isTrue trivial

/-- What the kernel and the log know of the cdevs handed out so far. -/
structure LedgerInv (k : Kernel Dev CdevPtr) (nextCdev : CdevPtr) : Prop where
  fresh : ∀ cdev, nextCdev ≤ cdev → k.cdevs cdev = []
  deleted : ∀ deletion ∈ deletions k.log, deletion.1 < nextCdev ∧ k.cdevs deletion.1 = []
  once : ((deletions k.log).map (·.1)).Nodup
  found : ∀ deletion ∈ deletions k.log, deletion.2 ≠ none

/-- An occupied entry holds its device's only registration; what an empty one holds is
registered no more. -/
structure EntryInv (w : World Dev) (pair : PciCdevPair Dev CdevPtr) : Prop where
  known : ∀ cdev, pair.cdev = some cdev → cdev < w.nextCdev
  occupied : ∀ d, pair.pciDev = some d →
    ∃ cdev, pair.cdev = some cdev ∧ w.kernel.cdevs cdev = [⟨⟨w.major, pair.minor⟩, d⟩]
  empty : pair.pciDev = none → ∀ cdev, pair.cdev = some cdev → w.kernel.cdevs cdev = []

structure CdevInv (w : World Dev) (bound : Finset Dev) : Prop where
  table : ∃ N : Numbering Dev 0 MAX_DEVICE, Represents N w.pciCdev ∧ N.domain ⊆ bound
  ledger : LedgerInv w.kernel w.nextCdev
  entries : ∀ pair ∈ w.pciCdev, EntryInv w pair

end Statements

variable {Dev : Type} {w w' : World Dev} {bound : Finset Dev} {d e : Dev}
  {k after : Kernel Dev CdevPtr} {cdev next : CdevPtr} {pair : PciCdevPair Dev CdevPtr}
  {registration : Registration Dev}

/-! ## The ledger -/

theorem LedgerInv.unused (ledger : LedgerInv k next) : k.cdevs next = [] :=
  ledger.fresh next (Nat.le_refl next)

theorem deletions_append (log : List (Event Dev CdevPtr)) (event : Event Dev CdevPtr) :
    deletions (log ++ [event]) = deletions log ++ deletions [event] :=
  List.filterMap_append

/-- Calls that neither register nor delete a cdev keep the ledger. -/
theorem LedgerInv.of_same (ledger : LedgerInv k next) (cdevs : after.cdevs = k.cdevs)
    (log : deletions after.log = deletions k.log) : LedgerInv after next where
  fresh := cdevs ▸ ledger.fresh
  deleted := by
    rw [log, cdevs]
    exact ledger.deleted
  once := log ▸ ledger.once
  found := log ▸ ledger.found

/-- The next cdev is registered. -/
theorem LedgerInv.register (ledger : LedgerInv k next)
    (cdevs : after.cdevs = Function.update k.cdevs next [registration])
    (log : deletions after.log = deletions k.log) : LedgerInv after (next + 1) where
  fresh := by
    intro cdev later
    rw [cdevs, Function.update_of_ne (Nat.ne_of_gt later)]
    exact ledger.fresh cdev (Nat.le_of_succ_le later)
  deleted := by
    rw [log, cdevs]
    intro deletion member
    obtain ⟨old, gone⟩ := ledger.deleted deletion member
    rw [Function.update_of_ne (Nat.ne_of_lt old)]
    exact ⟨Nat.lt_succ_of_lt old, gone⟩
  once := log ▸ ledger.once
  found := log ▸ ledger.found

/-- A registered cdev is one handed out and not deleted before. -/
theorem LedgerInv.not_deleted (ledger : LedgerInv k next)
    (registered : k.cdevs cdev = [registration]) :
    cdev < next ∧ ∀ deletion ∈ deletions k.log, deletion.1 ≠ cdev := by
  constructor
  · by_contra later
    have none := ledger.fresh cdev (Nat.le_of_not_lt later)
    rw [registered] at none
    exact absurd none (by simp)
  · intro deletion member same
    have gone := (ledger.deleted deletion member).2
    rw [same, registered] at gone
    exact absurd gone (by simp)

theorem cdevDel_registered (registered : k.cdevs cdev = [registration]) :
    (k.cdevDel cdev).cdevs = Function.update k.cdevs cdev [] ∧
      deletions (k.cdevDel cdev).log =
        deletions k.log ++ [(cdev, some registration.owner)] := by
  constructor
  · simp [Kernel.cdevDel, registered]
  · have event : (k.cdevDel cdev).log = k.log ++ [.cdevDel cdev (some registration.owner)] := by
      simp [Kernel.cdevDel, registered]
    rw [event, deletions_append]
    rfl

/-- Nothing is left of a registered cdev deleted, and it was not deleted twice. -/
theorem LedgerInv.delete (ledger : LedgerInv k next)
    (registered : k.cdevs cdev = [registration]) : LedgerInv (k.cdevDel cdev) next := by
  obtain ⟨old, new⟩ := ledger.not_deleted registered
  obtain ⟨cdevs, log⟩ := cdevDel_registered registered
  refine ⟨?_, ?_, ?_, ?_⟩
  · intro other later
    rw [cdevs, Function.update_of_ne (Nat.ne_of_gt (Nat.lt_of_lt_of_le old later))]
    exact ledger.fresh other later
  · intro deletion member
    rw [log, List.mem_append, List.mem_singleton] at member
    rw [cdevs]
    rcases member with before | same
    · obtain ⟨known, gone⟩ := ledger.deleted deletion before
      rw [Function.update_of_ne (new deletion before)]
      exact ⟨known, gone⟩
    · subst same
      exact ⟨old, Function.update_self ..⟩
  · rw [log, List.map_append, List.map_singleton]
    apply List.Nodup.append ledger.once (List.nodup_singleton cdev)
    intro other member again
    obtain ⟨deletion, before, same⟩ := List.mem_map.mp member
    exact new deletion before (same.trans (List.mem_singleton.mp again))
  · intro deletion member
    rw [log, List.mem_append, List.mem_singleton] at member
    rcases member with before | same
    · exact ledger.found deletion before
    · subst same
      simp

/-! ## Entries -/

/-- An entry is kept when the registrations of its cdev are. -/
theorem EntryInv.of_same (entry : EntryInv w pair) (major : w'.major = w.major)
    (next : w.nextCdev ≤ w'.nextCdev)
    (cdevs : ∀ cdev, pair.cdev = some cdev → w'.kernel.cdevs cdev = w.kernel.cdevs cdev) :
    EntryInv w' pair where
  known := fun cdev held => lt_of_lt_of_le (entry.known cdev held) next
  occupied := by
    intro d holder
    obtain ⟨cdev, held, registered⟩ := entry.occupied d holder
    exact ⟨cdev, held, by rw [cdevs cdev held, major, registered]⟩
  empty := fun vacant cdev held => (cdevs cdev held).trans (entry.empty vacant cdev held)

/-- No entry without `d` holds `d`'s cdev. -/
theorem EntryInv.not_other (entry : EntryInv w pair) (other : pair.pciDev ≠ some d)
    (owner : registration.owner = d) (registered : w.kernel.cdevs cdev = [registration]) :
    pair.cdev ≠ some cdev := by
  intro held
  cases holder : pair.pciDev with
  | none =>
    have none := entry.empty holder cdev held
    rw [registered] at none
    exact absurd none (by simp)
  | some e =>
    obtain ⟨mine, heldMine, mineRegistered⟩ := entry.occupied e holder
    obtain rfl : mine = cdev := Option.some.inj (heldMine.symm.trans held)
    rw [registered] at mineRegistered
    have same : registration = ⟨⟨w.major, pair.minor⟩, e⟩ := (List.cons.inj mineRegistered).1
    rw [same] at owner
    exact other (owner ▸ holder)

/-- An entry cleared once its cdev is deleted. -/
theorem EntryInv.vacated (entry : EntryInv w pair) (held : pair.cdev = some cdev)
    (next : w.nextCdev ≤ w'.nextCdev) (gone : w'.kernel.cdevs cdev = []) :
    EntryInv w' { pair with pciDev := none } where
  known := fun other heldOther => lt_of_lt_of_le (entry.known other heldOther) next
  occupied := fun e impossible => absurd impossible (by simp)
  empty := by
    intro _ other heldOther
    obtain rfl := Option.some.inj (held.symm.trans heldOther)
    exact gone

theorem CdevInv.sound (invariant : CdevInv w bound) {loaded : Bool} :
    CdevsSound ⟨w, bound, loaded⟩ where
  registered := by
    intro pair member occupied
    obtain ⟨d, holder⟩ := Option.ne_none_iff_exists'.mp occupied
    obtain ⟨cdev, held, registered⟩ := (invariant.entries pair member).occupied d holder
    exact ⟨cdev, held, _, registered ▸ List.mem_singleton_self _, rfl⟩
  once := invariant.ledger.once
  found := invariant.ledger.found

variable [DecidableEq Dev] {pci : Dev → PciDev} {answers : ProbeAnswers} {r : RunState Dev}

/-! ## Remove -/

theorem remove_kernel {answer : Option CdevPtr}
    (found : pciCdevSearchCdev w.pciCdev (pciCdevSearchMinor w.pciCdev d) = answer) :
    (pciRemove w d).kernel = (deleteCdev w.kernel answer).pciReleaseRegion d SSA10A_BAR_IO := by
  rw [← found]
  rfl

/-- Removing a device with an entry deletes the entry's cdev. -/
theorem remove_deletes (registered : w.kernel.cdevs cdev = [registration])
    (found : pciCdevSearchCdev w.pciCdev (pciCdevSearchMinor w.pciCdev d) = some cdev) :
    (pciRemove w d).kernel.cdevs = Function.update w.kernel.cdevs cdev [] ∧
      (LedgerInv w.kernel w.nextCdev → LedgerInv (pciRemove w d).kernel w.nextCdev) := by
  rw [remove_kernel found]
  constructor
  · change Function.update w.kernel.cdevs cdev (w.kernel.cdevs cdev).tail = _
    rw [registered]
    rfl
  · intro ledger
    exact (ledger.delete registered).of_same rfl ((deletions_append _ _).trans (List.append_nil _))

theorem CdevInv.remove_present (before : CdevInv w bound) {N : Numbering Dev 0 MAX_DEVICE}
    (rep : Represents N w.pciCdev) (member : pair ∈ w.pciCdev) (holder : pair.pciDev = some d) :
    LedgerInv (pciRemove w d).kernel w.nextCdev ∧
      ∀ cleared ∈ (pciRemove w d).pciCdev, EntryInv (pciRemove w d) cleared := by
  obtain ⟨cdev, held, registered⟩ := (before.entries pair member).occupied d holder
  have found : pciCdevSearchCdev w.pciCdev (pciCdevSearchMinor w.pciCdev d) = some cdev :=
    (rep.searchCdev_of_holder member holder).trans held
  obtain ⟨cdevs, ledger⟩ := remove_deletes registered found
  refine ⟨ledger before.ledger, ?_⟩
  intro cleared clearedMember
  obtain ⟨old, oldMember, same⟩ := List.mem_map.mp clearedMember
  subst same
  have entry := before.entries old oldMember
  by_cases mine : old.pciDev = some d
  · rw [if_pos mine]
    have heldOld : old.cdev = some cdev :=
      (rep.searchCdev_of_holder oldMember mine).symm.trans found
    refine entry.vacated heldOld (Nat.le_refl _) ?_
    rw [cdevs, Function.update_self]
  · rw [if_neg mine]
    refine entry.of_same rfl (Nat.le_refl _) ?_
    intro other heldOther
    rw [cdevs]
    apply Function.update_of_ne
    intro same
    exact entry.not_other mine rfl registered (same ▸ heldOther)

theorem CdevInv.remove_absent (before : CdevInv w bound) {N : Numbering Dev 0 MAX_DEVICE}
    (rep : Represents N w.pciCdev) (absent : d ∉ N.domain) :
    LedgerInv (pciRemove w d).kernel w.nextCdev ∧
      ∀ cleared ∈ (pciRemove w d).pciCdev, EntryInv (pciRemove w d) cleared := by
  have notFound : pciCdevSearchCdev w.pciCdev (pciCdevSearchMinor w.pciCdev d) = none := by
    rw [rep.searchMinor, N.number_eq_none absent, Option.getD_none]
    exact rep.searchCdev_outside (by decide)
  have kernel : (pciRemove w d).kernel = w.kernel.pciReleaseRegion d SSA10A_BAR_IO :=
    remove_kernel notFound
  constructor
  · rw [kernel]
    exact before.ledger.of_same rfl ((deletions_append _ _).trans (List.append_nil _))
  · intro cleared clearedMember
    obtain ⟨old, oldMember, same⟩ := List.mem_map.mp clearedMember
    subst same
    have other : old.pciDev ≠ some d := by
      intro holder
      exact absent (rep.mem_domain_iff.mpr ⟨old, oldMember, holder⟩)
    rw [if_neg other]
    refine (before.entries old oldMember).of_same rfl (Nat.le_refl _) ?_
    intro cdev _
    rw [kernel]
    rfl

theorem CdevInv.remove (before : CdevInv w bound) (d : Dev) :
    CdevInv (pciRemove w d) (bound.erase d) := by
  obtain ⟨N, rep, domain⟩ := before.table
  have table : ∃ N : Numbering Dev 0 MAX_DEVICE, Represents N (pciRemove w d).pciCdev ∧
      N.domain ⊆ bound.erase d :=
    ⟨N.erase d, rep.del d, Finset.erase_subset_erase d domain⟩
  by_cases present : d ∈ N.domain
  · obtain ⟨pair, member, holder⟩ := rep.mem_domain_iff.mp present
    obtain ⟨ledger, entries⟩ := before.remove_present rep member holder
    exact ⟨table, ledger, entries⟩
  · obtain ⟨ledger, entries⟩ := before.remove_absent rep present
    exact ⟨table, ledger, entries⟩

/-! ## Unload -/

theorem CdevInv.removeAll (before : CdevInv w bound) (boundDevices : List Dev) :
    CdevInv (boundDevices.foldl pciRemove w) (bound \ boundDevices.toFinset) := by
  induction boundDevices generalizing w bound with
  | nil => simpa using before
  | cons d rest ih =>
    have after := ih (before.remove d)
    have sets : bound.erase d \ rest.toFinset = bound \ (d :: rest).toFinset := by
      ext e
      simp [and_assoc, and_left_comm]
    exact sets ▸ after

omit [DecidableEq Dev] in
theorem deleteLeft_empty (kernel : Kernel Dev CdevPtr) {table : Table Dev}
    (empty : ∀ pair ∈ table, pair.pciDev = none) : deleteLeft kernel table = .ok kernel := by
  induction table with
  | nil => rfl
  | cons pair rest ih =>
    unfold deleteLeft
    rw [empty pair List.mem_cons_self]
    exact ih fun other member => empty other (List.mem_cons_of_mem pair member)

omit [DecidableEq Dev] in
/-- Without bound devices no entry is occupied. -/
theorem CdevInv.vacant (invariant : CdevInv w ∅) : ∀ pair ∈ w.pciCdev, pair.pciDev = none := by
  obtain ⟨N, rep, domain⟩ := invariant.table
  intro pair member
  cases holder : pair.pciDev with
  | none => rfl
  | some d =>
    have present := domain (rep.mem_domain_iff.mpr ⟨pair, member, holder⟩)
    exact absurd present (Finset.notMem_empty d)

theorem CdevInv.unload (before : CdevInv w bound) {boundDevices : List Dev}
    (all : boundDevices.toFinset = bound) :
    ∃ after, moduleUnload boundDevices w = .ok after ∧ CdevInv after ∅ := by
  have removed := before.removeAll boundDevices
  rw [all, Finset.sdiff_self] at removed
  refine ⟨_, by rw [moduleUnload, deleteLeft_empty _ removed.vacant, Except.map], ?_⟩
  refine ⟨removed.table, removed.ledger.of_same rfl rfl, ?_⟩
  intro pair member
  exact (removed.entries pair member).of_same rfl (Nat.le_refl _) fun _ _ => rfl

/-! ## Probe -/

/-- The entry `pair` is empty, and `pci_cdev_add` gives it to `d`. -/
structure Takes (w : World Dev) (d : Dev) (before : Table Dev) (pair : PciCdevPair Dev CdevPtr)
    (after : Table Dev) : Prop where
  table : w.pciCdev = before ++ pair :: after
  empty : pair.pciDev = none
  added : pciCdevAdd w.pciCdev d =
    (pair.minor, before ++ { pair with pciDev := some d } :: after)

variable {earlier later : Table Dev}

omit [DecidableEq Dev] in
theorem Takes.member (takes : Takes w d earlier pair later) : pair ∈ w.pciCdev := by
  rw [takes.table]
  simp

/-- The table with the entry taken represents one more device, under the entry's minor. -/
theorem Takes.represents {N : Numbering Dev 0 MAX_DEVICE} (takes : Takes w d earlier pair later)
    (rep : Represents N w.pciCdev) (absent : d ∉ N.domain) :
    ∃ free : N.Free pair.minor, Represents (N.insert d pair.minor free)
      (earlier ++ { pair with pciDev := some d } :: later) := by
  have free : N.Free pair.minor := (rep.free_iff takes.member).mpr takes.empty
  have split : Represents N (earlier ++ pair :: later) := takes.table ▸ rep
  exact ⟨free, split.insert absent free⟩

/-- The table with the entry taken is indexed by minors again. -/
theorem CdevInv.taken (invariant : CdevInv w bound) (unbound : d ∉ bound)
    (takes : Takes w d earlier pair later) :
    0 ≤ pair.minor ∧ ∃ N : Numbering Dev 0 MAX_DEVICE,
      Represents N (earlier ++ { pair with pciDev := some d } :: later) ∧
        N.domain ⊆ insert d bound := by
  obtain ⟨N, rep, domain⟩ := invariant.table
  have absent : d ∉ N.domain := fun present => unbound (domain present)
  obtain ⟨free, taken⟩ := takes.represents rep absent
  exact ⟨free.1.1, N.insert d pair.minor free, taken, Finset.insert_subset_insert d domain⟩

omit [DecidableEq Dev] in
theorem registered_cdevs [DecidableEq Dev] (unused : w.kernel.cdevs w.nextCdev = [])
    (answers : ProbeAnswers) (d : Dev) (minor : Int) :
    (w.registered answers d minor).cdevs =
      Function.update w.kernel.cdevs w.nextCdev [⟨⟨w.major, minor⟩, d⟩] ∧
    deletions (w.registered answers d minor).log = deletions w.kernel.log := by
  unfold World.registered
  cases answers.enable with
  | ok =>
    constructor
    · change Function.update w.kernel.cdevs w.nextCdev (_ :: w.kernel.cdevs w.nextCdev) = _
      rw [unused]
    · exact (deletions_append _ _).trans (List.append_nil _)
  | error errno =>
    constructor
    · change Function.update w.kernel.cdevs w.nextCdev (_ :: w.kernel.cdevs w.nextCdev) = _
      rw [unused]
    · exact (deletions_append _ _).trans (List.append_nil _)

theorem CdevInv.probe_granted (pci : Dev → PciDev) (invariant : CdevInv w bound)
    (unbound : d ∉ bound) (takes : Takes w d earlier pair later)
    (granted : answers.cdevAdd = .ok ∧ answers.regions = .ok) :
    ∃ after, pciProbe pci answers w d = .ok (1, after) ∧ CdevInv after (insert d bound) := by
  obtain ⟨nonneg, N, rep, domain⟩ := invariant.taken unbound takes
  have linked := setCdev_entry rep.layout w.nextCdev
  obtain ⟨cdevs, log⟩ := registered_cdevs invariant.ledger.unused answers d pair.minor
  refine ⟨_, (probe_registered nonneg takes.added linked granted.1).trans (if_pos granted.2),
    ⟨N, rep.setCdev w.nextCdev, domain⟩, invariant.ledger.register cdevs log, ?_⟩
  intro other member
  have kept : ∀ old ∈ w.pciCdev, ∀ held, old.cdev = some held →
      (w.registered answers d pair.minor).cdevs held = w.kernel.cdevs held := by
    intro old oldMember held holds
    rw [cdevs]
    exact Function.update_of_ne (Nat.ne_of_lt ((invariant.entries old oldMember).known held holds)) _ _
  have place : other ∈ w.pciCdev ∨
      other = { pair with pciDev := some d, cdev := some w.nextCdev } := by
    rw [takes.table]
    rcases List.mem_append.mp member with front | back
    · exact Or.inl (List.mem_append_left _ front)
    · rcases List.mem_cons.mp back with same | behind
      · exact Or.inr same
      · exact Or.inl (by simp [behind])
  rcases place with old | same
  · exact (invariant.entries other old).of_same rfl (Nat.le_succ _) (kept other old)
  · subst same
    refine ⟨?_, ?_, fun impossible => absurd impossible (by simp)⟩
    · intro held same
      exact Option.some.inj same ▸ Nat.lt_succ_self _
    · intro e holder
      obtain rfl : d = e := Option.some.inj holder
      refine ⟨w.nextCdev, rfl, ?_⟩
      change (w.registered answers d pair.minor).cdevs w.nextCdev = _
      rw [cdevs, Function.update_self]
      rfl

/-- A refused `cdev_add` leaves the entry with an unregistered cdev or none. -/
theorem CdevInv.probe_unregistered (pci : Dev → PciDev) (invariant : CdevInv w bound)
    (unbound : d ∉ bound) (takes : Takes w d earlier pair later) (failed : answers.cdevAdd ≠ .ok) :
    ∃ after, pciProbe pci answers w d = .ok (0, after) ∧
      ∀ bound loaded, ¬ CdevsSound ⟨after, bound, loaded⟩ := by
  obtain ⟨nonneg, -⟩ := invariant.taken unbound takes
  refine ⟨_, Pcidev01.probe_unregistered nonneg takes.added failed, ?_⟩
  intro _ _ sound
  obtain ⟨cdev, held, registration, registered, _⟩ :=
    sound.registered { pair with pciDev := some d } (by simp [World.taken]) (by simp)
  have gone := (invariant.entries pair takes.member).empty takes.empty cdev held
  change registration ∈ w.kernel.cdevs cdev at registered
  rw [gone] at registered
  exact absurd registered (by simp)

/-- A refused `pci_request_regions` leaves the entry with a deleted cdev. -/
theorem CdevInv.probe_unreserved (pci : Dev → PciDev) (invariant : CdevInv w bound)
    (unbound : d ∉ bound) (takes : Takes w d earlier pair later) (granted : answers.cdevAdd = .ok)
    (failed : answers.regions ≠ .ok) :
    ∃ after, pciProbe pci answers w d = .ok (0, after) ∧
      ∀ bound loaded, ¬ CdevsSound ⟨after, bound, loaded⟩ := by
  obtain ⟨nonneg, N, rep, domain⟩ := invariant.taken unbound takes
  have linked := setCdev_entry rep.layout w.nextCdev
  obtain ⟨cdevs, -⟩ := registered_cdevs invariant.ledger.unused answers d pair.minor
  refine ⟨_, (probe_registered nonneg takes.added linked granted).trans (if_neg failed), ?_⟩
  intro _ _ sound
  obtain ⟨cdev, held, registration, registered, _⟩ :=
    sound.registered { pair with pciDev := some d, cdev := some w.nextCdev }
      (by simp [World.taken]) (by simp)
  obtain rfl : w.nextCdev = cdev := Option.some.inj held
  change registration ∈ ((w.registered answers d pair.minor).cdevDel w.nextCdev).cdevs w.nextCdev
    at registered
  unfold Kernel.cdevDel at registered
  rw [cdevs] at registered
  simp at registered

/-! ## Runs -/

theorem step_probe {ret : Int} {after : World Dev}
    (outcome : pciProbe pci answers r.world d = .ok (ret, after)) :
    step pci r (.probe d answers) = some { r with
      world := after, bound := if 0 ≤ ret then insert d r.bound else r.bound } := by
  simp only [step, outcome]

omit [DecidableEq Dev] in
theorem full_or_takes (w : World Dev) (d : Dev) :
    (∀ pair ∈ w.pciCdev, pair.pciDev ≠ none) ∧ pciCdevAdd w.pciCdev d = (-1, w.pciCdev) ∨
    ∃ earlier pair later, Takes w d earlier pair later := by
  rcases pciCdevAdd_cases w.pciCdev d with full | ⟨earlier, pair, later, table, _, empty, added⟩
  · exact Or.inl full
  · exact Or.inr ⟨earlier, pair, later, table, empty, added⟩

theorem CdevInv.probe_kept (invariant : CdevInv r.world r.bound) (unbound : d ∉ r.bound)
    (grants : GrantsProbe r (.probe d answers)) :
    Leads (step pci) (fun after => CdevInv after.world after.bound) r (.probe d answers) := by
  rcases full_or_takes r.world d with ⟨full, added⟩ | ⟨earlier, pair, later, takes⟩
  · refine ⟨_, step_probe (probe_full added), ?_⟩
    obtain ⟨N, rep, domain⟩ := invariant.table
    exact ⟨⟨N, rep, domain.trans (Finset.subset_insert d r.bound)⟩, invariant.ledger,
      invariant.entries⟩
  · obtain ⟨after, outcome, kept⟩ := invariant.probe_granted pci unbound takes
      (grants ⟨pair, takes.member, takes.empty⟩)
    exact ⟨_, step_probe outcome, kept⟩

theorem CdevInv.grants_of_sound (invariant : CdevInv r.world r.bound) (unbound : d ∉ r.bound)
    (leads : Leads (step pci) CdevsSound r (.probe d answers)) :
    GrantsProbe r (.probe d answers) := by
  rintro ⟨vacant, member, empty⟩
  rcases full_or_takes r.world d with ⟨full, _⟩ | ⟨earlier, pair, later, takes⟩
  · exact absurd empty (full vacant member)
  · by_cases granted : answers.cdevAdd = .ok
    · refine ⟨granted, ?_⟩
      by_contra failed
      obtain ⟨after, outcome, unsound⟩ :=
        invariant.probe_unreserved pci unbound takes granted failed
      exact unsound _ _ (leads.reached (step_probe outcome))
    · obtain ⟨after, outcome, unsound⟩ := invariant.probe_unregistered pci unbound takes granted
      exact absurd (leads.reached (step_probe outcome)) (unsound _ _)

theorem CdevInv.kept (c : Callback Dev) (invariant : CdevInv r.world r.bound)
    (called : CoreCalls r c) (grants : GrantsProbe r c) :
    Leads (step pci) (fun after => CdevInv after.world after.bound) r c := by
  cases c with
  | probe d answers => exact invariant.probe_kept called.2 grants
  | remove d => exact ⟨_, rfl, invariant.remove d⟩
  | unload boundDevices =>
    obtain ⟨after, outcome, kept⟩ := invariant.unload called.2.2
    exact ⟨⟨after, ∅, false⟩, by simp only [step, outcome], kept⟩

theorem cdevsSound_iff (c : Callback Dev) (invariant : CdevInv r.world r.bound)
    (called : CoreCalls r c) : Leads (step pci) CdevsSound r c ↔ GrantsProbe r c := by
  constructor
  · intro leads
    cases c with
    | probe d answers => exact invariant.grants_of_sound called.2 leads
    | remove d => trivial
    | unload boundDevices => trivial
  · intro grants
    have kept : Leads (step pci) (fun after => CdevInv after.world after.bound) r c :=
      invariant.kept c called grants
    obtain ⟨after, taken, inside⟩ := kept
    exact ⟨after, taken, inside.sound⟩

omit [DecidableEq Dev] in
theorem CdevInv.start {load : LoadAnswers} {world : World Dev}
    (loaded : moduleLoad load World.boot = (0, world)) : CdevInv world ∅ := by
  obtain ⟨table, next, cdevs, log⟩ := load_success loaded
  refine ⟨⟨Numbering.empty 0 MAX_DEVICE, table ▸ represents_init 0 MAX_DEVICE,
    Finset.empty_subset ∅⟩, ⟨?_, ?_, ?_, ?_⟩, ?_⟩
  · intro cdev _
    rw [cdevs]
  · simp [log, deletions]
  · simp [log, deletions]
  · simp [log, deletions]
  · intro pair member
    obtain ⟨noDevice, noCdev⟩ := empty_init MAX_DEVICE 0 pair (table ▸ member)
    refine ⟨?_, ?_, ?_⟩
    · simp [noCdev]
    · simp [noDevice]
    · simp [noCdev]

/-- In the runs the PCI core makes, occupied entries hold registered cdevs and every
deletion finds one, each once, exactly when every probe that finds a free entry is
granted its cdev and its regions. -/
theorem cdevs_sound_iff_grants_probe {load : LoadAnswers} {world : World Dev}
    {callbacks : List (Callback Dev)} (loaded : moduleLoad load World.boot = (0, world))
    (called : Each (step pci) CoreCalls (RunState.start world) callbacks) :
    Each (step pci) (Leads (step pci) CdevsSound) (RunState.start world) callbacks ↔
      Each (step pci) GrantsProbe (RunState.start world) callbacks := by
  have start : CdevInv (RunState.start world).world (RunState.start world).bound := .start loaded
  have exact_step : ∀ (r : RunState Dev) (c : Callback Dev), CdevInv r.world r.bound →
      CoreCalls r c → (Leads (step pci) CdevsSound r c ↔ GrantsProbe r c) :=
    fun r c before allowed => cdevsSound_iff c before allowed
  exact each_iff_each exact_step (fun r c after before allowed grants taken =>
    (CdevInv.kept c before allowed grants).reached taken) start called

/-- Three cards, the third in the entry the first has left, and unloading. -/
def entryReused : List (Callback Nat) :=
  [.probe 0 allGranted, .probe 1 allGranted, .remove 0, .probe 2 allGranted, .unload [1, 2]]

theorem cdevs_sound_iff_entry_reused :
    Each (step fun _ => sampleCard) (Leads (step fun _ => sampleCard) CdevsSound)
        (RunState.start (moduleLoad sampleLoad World.boot).2) entryReused ↔
      Each (step fun _ => sampleCard) GrantsProbe
        (RunState.start (moduleLoad sampleLoad World.boot).2) entryReused :=
  cdevs_sound_iff_grants_probe (show moduleLoad sampleLoad World.boot = (0, _) from rfl)
    (by decide +kernel)

/-- The probe deletes the cdev when its regions are refused, keeps the entry, and answers
0; the remove deletes the same cdev again. -/
theorem refused_regions_delete_twice :
    ¬ ∀ (world : World Nat) (callbacks : List (Callback Nat)),
      moduleLoad sampleLoad World.boot = (0, world) →
      Each (step fun _ => sampleCard) CoreCalls (RunState.start world) callbacks →
      Each (step fun _ => sampleCard) (Leads (step fun _ => sampleCard) CdevsSound)
        (RunState.start world) callbacks := by
  intro claim
  have sound := claim _ [.probe 0 { allGranted with regions := .error 16 }, .remove 0] rfl
    (by decide +kernel)
  obtain ⟨r, reached, twice⟩ := Option.map_eq_some_iff.mp
    (show (run (step fun _ => sampleCard) (RunState.start (moduleLoad sampleLoad World.boot).2)
        [.probe 0 { allGranted with regions := .error 16 }, .remove 0]).map
        (fun r => (deletions r.world.kernel.log).map (·.1)) = some [0, 0] by decide +kernel)
  have start : CdevInv (moduleLoad sampleLoad (World.boot : World Nat)).2 ∅ :=
    .start (show moduleLoad sampleLoad World.boot = (0, _) from rfl)
  have once := (Each.reached start.sound sound reached).once
  rw [twice] at once
  exact absurd once (by decide)

end LddLearn.Pcidev01
