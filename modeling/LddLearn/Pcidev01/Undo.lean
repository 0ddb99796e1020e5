import LddLearn.Pcidev01.Cdevs

/-!
# What a probe leaves behind

`pci_probe` takes an entry of the table, registers a cdev, enables the device and reserves
its regions. Its two late error exits give the cdev back at most, never the entry and never
the enabled device, and `pci_remove` releases BAR 0 only. So failed probes use up the table,
and a remove undoes its probe for few devices.
-/

set_option autoImplicit false

namespace LddLearn.Pcidev01
open LddLearn.Linux LddLearn.Library LddLearn.Library.Run

/-! ## Property and condition -/

section Statements
variable {Dev : Type}

/-- The minors are the indices of their entries, as `module_load` numbers them. -/
def World.Indexed (w : World Dev) : Prop :=
  minors w.pciCdev = minors (pciCdevInit MAX_DEVICE 0 : Table Dev)

def RunState.Indexed (r : RunState Dev) : Prop := r.world.Indexed

/-- The devices that have an entry. -/
def World.present (w : World Dev) : Set Dev := {d | ∃ pair ∈ w.pciCdev, pair.pciDev = some d}

def World.freeEntries (w : World Dev) : Nat := w.pciCdev.countP (·.pciDev.isNone)

/-- Table, cdevs, enabled devices and reserved regions are what they were. -/
structure SameHeld (before after : World Dev) : Prop where
  table : after.pciCdev = before.pciCdev
  cdevs : after.kernel.cdevs = before.kernel.cdevs
  enabled : after.kernel.enableCount = before.kernel.enableCount
  regions : after.kernel.regions = before.kernel.regions

/-- Probe and remove cancel out for `d`: the same devices are present and the same cdevs
registered, and `d` is enabled as often and has the same BARs reserved as before. -/
structure Restored (d : Dev) (before after : World Dev) : Prop where
  present : after.present = before.present
  cdevs : after.kernel.cdevs = before.kernel.cdevs
  enabled : after.kernel.enableCount d = before.kernel.enableCount d
  regions : ∀ bar, after.kernel.regions d bar ≠ none ↔ before.kernel.regions d bar ≠ none

/-- All the probe takes of `d` is what the remove gives back: an entry, a cdev and BAR 0. -/
structure TakesReturnable (hw : PciDev) (answers : ProbeAnswers) (d : Dev) (w : World Dev) :
    Prop where
  absent : d ∉ w.present
  notEnabled : answers.enable ≠ .ok
  barIo : w.kernel.regions d SSA10A_BAR_IO = none
  otherBars : ∀ bar, bar ≠ SSA10A_BAR_IO → (hw.bars bar).len ≠ 0 → w.kernel.regions d bar ≠ none

variable [DecidableEq Dev]

/-- A probe that returns 0 leaves everything as it was. -/
def FailureUndone (pci : Dev → PciDev) (r : RunState Dev) : Callback Dev → Prop
  | .probe dev answers => ∀ world, pciProbe pci answers r.world dev = .ok (0, world) →
      SameHeld r.world world
  | _ => True

end Statements

variable {Dev : Type} {w after : World Dev} {d e : Dev} {answers : ProbeAnswers}
  {earlier later : Table Dev} {pair entry : PciCdevPair Dev CdevPtr}

/-! ## The table -/

theorem World.Indexed.start {load : LoadAnswers} {world : World Dev}
    (loaded : moduleLoad load World.boot = (0, world)) : world.Indexed :=
  congrArg minors (load_success loaded).1

theorem World.Indexed.ascending (indexed : w.Indexed) : (minors w.pciCdev).Pairwise (· < ·) := by
  unfold World.Indexed at indexed
  rw [indexed]
  exact ascending_init MAX_DEVICE 0

theorem World.Indexed.replace (indexed : w.Indexed) (split : w.pciCdev = earlier ++ pair :: later)
    (table : after.pciCdev = earlier ++ entry :: later) (same : entry.minor = pair.minor) :
    after.Indexed := by
  unfold World.Indexed at indexed ⊢
  rw [table, minors_replace same, ← split, indexed]

theorem World.Indexed.nonneg (indexed : w.Indexed) (member : pair ∈ w.pciCdev) :
    0 ≤ pair.minor := by
  have inside : pair.minor ∈ minors w.pciCdev := List.mem_map_of_mem member
  unfold World.Indexed at indexed
  rw [indexed, mem_minors_init] at inside
  exact inside.1

theorem present_replace (split : w.pciCdev = earlier ++ pair :: later) (empty : pair.pciDev = none)
    (holder : entry.pciDev = some d) (table : after.pciCdev = earlier ++ entry :: later) :
    after.present = insert d w.present := by
  ext e
  simp only [World.present, table, split, Set.mem_ofPred_eq, Set.mem_insert_iff, List.mem_append,
    List.mem_cons, or_and_right, exists_or, exists_eq_left, empty, holder, reduceCtorEq, false_or,
    Option.some.injEq]
  rw [eq_comm (a := d)]
  exact or_left_comm

theorem freeEntries_replace (split : w.pciCdev = earlier ++ pair :: later)
    (empty : pair.pciDev = none) (holder : entry.pciDev = some d)
    (table : after.pciCdev = earlier ++ entry :: later) :
    after.freeEntries + 1 = w.freeEntries := by
  simp only [World.freeEntries, table, split, List.countP_append, List.countP_cons, empty, holder,
    Option.isNone_none, Option.isNone_some, if_true, Bool.false_eq_true, if_false]
  omega

variable [DecidableEq Dev] {pci : Dev → PciDev}

theorem present_remove (w : World Dev) (d : Dev) :
    (pciRemove w d).present = w.present \ {d} := by
  ext e
  simp only [World.present, pciRemove, pciCdevDel, List.mem_map, Set.mem_sdiff, Set.mem_ofPred_eq,
    Set.mem_singleton_iff]
  constructor
  · rintro ⟨_, ⟨pair, member, rfl⟩, holder⟩
    by_cases mine : pair.pciDev = some d
    · simp [mine] at holder
    · rw [if_neg mine] at holder
      exact ⟨⟨pair, member, holder⟩, fun same => mine (same ▸ holder)⟩
  · rintro ⟨⟨pair, member, holder⟩, other⟩
    have kept : pair.pciDev ≠ some d := by
      rw [holder]
      simpa using other
    exact ⟨pair, ⟨pair, member, if_neg kept⟩, holder⟩

theorem World.Indexed.remove (indexed : w.Indexed) (d : Dev) : (pciRemove w d).Indexed :=
  (minors_del w.pciCdev d).trans indexed

theorem World.Indexed.removeAll (indexed : w.Indexed) (boundDevices : List Dev) :
    (boundDevices.foldl pciRemove w).Indexed := by
  induction boundDevices generalizing w with
  | nil => exact indexed
  | cons d rest ih => exact ih (indexed.remove d)

/-- The two searches of a remove find the cdev of the device's entry when it has only one. -/
theorem searchCdev_of_only {table : Table Dev} (ascending : (minors table).Pairwise (· < ·))
    (member : pair ∈ table) (holder : pair.pciDev = some d)
    (only : ∀ other ∈ table, other.pciDev = some d → other = pair) :
    pciCdevSearchCdev table (pciCdevSearchMinor table d) = pair.cdev := by
  have found : pciCdevSearchMinor table d = pair.minor := by
    rcases search_cases (fun other => other.pciDev = some d) (·.minor) (-1) table with
      ⟨missing, _⟩ | ⟨other, inside, hit, answered⟩
    · simpa [holder] using missing pair member
    · rw [pciCdevSearchMinor, answered, only other inside (of_decide_eq_true hit)]
  rw [found, searchCdev_of_ascending ascending member]

/-! ## The exits of a probe -/

/-- Nothing of `d`'s kernel state is touched before `pci_enable_device`. -/
theorem registered_kernel (w : World Dev) (answers : ProbeAnswers) (d : Dev) (minor : Int) :
    (w.registered answers d minor).regions = w.kernel.regions ∧
      (w.registered answers d minor).enableCount d =
        w.kernel.enableCount d + (if answers.enable = .ok then 1 else 0) ∧
      (w.registered answers d minor).cdevs = Function.update w.kernel.cdevs w.nextCdev
        (⟨⟨w.major, minor⟩, d⟩ :: w.kernel.cdevs w.nextCdev) := by
  unfold World.registered
  cases answers.enable with
  | ok => exact ⟨rfl, Function.update_self .., rfl⟩
  | error errno => exact ⟨rfl, rfl, rfl⟩

omit [DecidableEq Dev] in
theorem World.Indexed.links (indexed : w.Indexed) (takes : Takes w d earlier pair later) :
    setCdev (earlier ++ { pair with pciDev := some d } :: later) pair.minor w.nextCdev =
      .ok (earlier ++ { pair with pciDev := some d, cdev := some w.nextCdev } :: later) := by
  have same : minors (earlier ++ { pair with pciDev := some d } :: later) =
      minors (earlier ++ pair :: later) := minors_replace rfl
  rw [← takes.table] at same
  exact setCdev_entry (same.trans indexed) w.nextCdev

/-- A probe that takes an entry and is then refused returns 0 and keeps the entry. -/
theorem probe_refused (pci : Dev → PciDev) (indexed : w.Indexed) (takes : Takes w d earlier pair later)
    (refused : ¬ (answers.cdevAdd = .ok ∧ answers.regions = .ok)) :
    ∃ world held, pciProbe pci answers w d = .ok (0, world) ∧
      world.pciCdev = earlier ++ { pair with pciDev := some d, cdev := held } :: later := by
  have nonneg := indexed.nonneg takes.member
  by_cases granted : answers.cdevAdd = .ok
  · have failed : answers.regions ≠ .ok := fun same => refused ⟨granted, same⟩
    have outcome : pciProbe pci answers w d = _ :=
      probe_registered nonneg takes.added (indexed.links takes) granted
    exact ⟨_, _, outcome.trans (if_neg failed), rfl⟩
  · exact ⟨_, pair.cdev, probe_unregistered nonneg takes.added granted, rfl⟩

theorem probe_accepted (pci : Dev → PciDev) (indexed : w.Indexed) (takes : Takes w d earlier pair later)
    (granted : answers.cdevAdd = .ok ∧ answers.regions = .ok) :
    ∃ world, pciProbe pci answers w d = .ok (1, world) ∧
      world.pciCdev =
        earlier ++ { pair with pciDev := some d, cdev := some w.nextCdev } :: later ∧
      world.kernel = ((w.registered answers d pair.minor).pciRequestRegions (pci d) d
        PCI_REGIONS_NAME .ok).2 := by
  have outcome : pciProbe pci answers w d = _ :=
    probe_registered (indexed.nonneg takes.member) takes.added (indexed.links takes) granted.1
  exact ⟨_, outcome.trans (if_pos granted.2), rfl, rfl⟩

variable {r r' : RunState Dev}

theorem World.Indexed.probe {ret : Int} (indexed : w.Indexed)
    (outcome : pciProbe pci answers w d = .ok (ret, after)) : after.Indexed := by
  rcases full_or_takes w d with ⟨_, added⟩ | ⟨earlier, pair, later, takes⟩
  · obtain ⟨_, rfl⟩ := Prod.mk.inj (Except.ok.inj ((probe_full added).symm.trans outcome))
    exact indexed
  · by_cases granted : answers.cdevAdd = .ok ∧ answers.regions = .ok
    · obtain ⟨world, accepted, table, _⟩ := probe_accepted pci indexed takes granted
      obtain ⟨_, rfl⟩ := Prod.mk.inj (Except.ok.inj (accepted.symm.trans outcome))
      exact indexed.replace takes.table table rfl
    · obtain ⟨world, held, refused, table⟩ := probe_refused pci indexed takes granted
      obtain ⟨_, rfl⟩ := Prod.mk.inj (Except.ok.inj (refused.symm.trans outcome))
      exact indexed.replace takes.table table rfl

theorem RunState.Indexed.step (c : Callback Dev) (indexed : r.Indexed)
    (taken : step pci r c = some r') : r'.Indexed := by
  cases c with
  | probe d answers =>
    cases outcome : pciProbe pci answers r.world d with
    | error fault => simp [Pcidev01.step, outcome] at taken
    | ok result =>
      rw [step_probe outcome] at taken
      obtain rfl := Option.some.inj taken
      exact World.Indexed.probe indexed outcome
  | remove d =>
    obtain rfl := Option.some.inj taken
    exact World.Indexed.remove indexed d
  | unload boundDevices =>
    have removed := World.Indexed.removeAll indexed boundDevices
    unfold Pcidev01.step moduleUnload at taken
    dsimp only at taken
    cases left : deleteLeft (boundDevices.foldl pciRemove r.world).kernel
        (boundDevices.foldl pciRemove r.world).pciCdev with
    | error fault => simp [left, Except.map] at taken
    | ok kernel =>
      simp only [left, Except.map, Option.some.injEq] at taken
      subst taken
      exact removed

/-! ## Failed probes -/

/-- A probe's failure is undone exactly when it finds no free entry; any other leaves the
device in the table. -/
theorem failureUndone_iff (c : Callback Dev) (indexed : r.Indexed) :
    FailureUndone pci r c ↔ GrantsProbe r c := by
  cases c with
  | remove d => exact Iff.rfl
  | unload boundDevices => exact Iff.rfl
  | probe d answers =>
    rcases full_or_takes r.world d with ⟨full, added⟩ | ⟨earlier, pair, later, takes⟩
    · have outcome : pciProbe pci answers r.world d = .ok (0, r.world) := probe_full added
      constructor
      · rintro _ ⟨pair, member, empty⟩
        exact absurd empty (full pair member)
      · intro _ world failed
        obtain ⟨_, rfl⟩ := Prod.mk.inj (Except.ok.inj (outcome.symm.trans failed))
        exact ⟨rfl, rfl, rfl, rfl⟩
    · constructor
      · intro undone _
        by_contra refused
        obtain ⟨world, held, failed, table⟩ := probe_refused pci indexed takes refused
        have same := (undone world failed).table
        rw [table, takes.table, List.append_cancel_left_eq, List.cons.injEq] at same
        have holder := congrArg PciCdevPair.pciDev same.1
        rw [takes.empty] at holder
        cases holder
      · intro grants world failed
        obtain ⟨_, accepted, _⟩ :=
          probe_accepted pci indexed takes (grants ⟨pair, takes.member, takes.empty⟩)
        have codes := (Prod.mk.inj (Except.ok.inj (accepted.symm.trans failed))).1
        exact absurd codes (by decide)

/-- From any table, in any order of probes, removes and unloads: every failed probe leaves
table, cdevs, enabled devices and regions as they were exactly when each probe that finds a
free entry is granted its cdev and its regions. -/
theorem failures_undone_iff_granted {calls : List (Callback Dev)} (indexed : r.Indexed) :
    Each (step pci) (FailureUndone pci) r calls ↔ Each (step pci) GrantsProbe r calls := by
  have guarded : Each (step pci) (fun _ _ => True) r calls := each_trivial r calls
  refine each_iff_each (fun r c before _ => ?_) ?_ indexed guarded
  · exact failureUndone_iff c before
  · intro r c r' before _ _ taken
    exact before.step c taken

/-- The card's second probe is turned down by `cdev_add`. -/
def cdevRefused : ProbeAnswers := ⟨.error 11, .ok, .ok⟩

theorem failures_undone_iff_granted_boot :
    Each (step fun _ => sampleCard) (FailureUndone fun _ => sampleCard)
        (RunState.start (moduleLoad sampleLoad World.boot).2)
        [.probe 0 allGranted, .remove (0 : Nat), .probe 0 cdevRefused] ↔
      Each (step fun _ => sampleCard) GrantsProbe
        (RunState.start (moduleLoad sampleLoad World.boot).2)
        [.probe 0 allGranted, .remove (0 : Nat), .probe 0 cdevRefused] :=
  failures_undone_iff_granted
    (World.Indexed.start (show moduleLoad sampleLoad World.boot = (0, _) from rfl))

/-- A card turned down by `cdev_add` has an entry from then on. -/
theorem entry_kept_after_failure :
    ¬ ∀ (world : World Nat) (calls : List (Callback Nat)),
      moduleLoad sampleLoad World.boot = (0, world) →
      Each (step fun _ => sampleCard) CoreCalls (RunState.start world) calls →
      Each (step fun _ => sampleCard) (FailureUndone fun _ => sampleCard) (RunState.start world)
        calls := by
  intro claim
  have undone := (claim _ [.probe 0 cdevRefused] rfl (by decide +kernel)).1
  have same := (undone _ rfl).table
  exact absurd same (by decide +kernel)

/-- Each failed probe uses up one entry more, whichever devices they are for. -/
theorem failed_probes_fill (pci : Dev → PciDev) (indexed : r.Indexed)
    (refused : ¬ (answers.cdevAdd = .ok ∧ answers.regions = .ok)) (devs : List Dev) :
    ∃ s, run (step pci) r (devs.map (Callback.probe · answers)) = some s ∧
      s.world.freeEntries = r.world.freeEntries - devs.length := by
  induction devs generalizing r with
  | nil => exact ⟨r, rfl, rfl⟩
  | cons d rest ih =>
    have first : ∃ world, pciProbe pci answers r.world d = .ok (0, world) ∧
        world.freeEntries = r.world.freeEntries - 1 := by
      rcases full_or_takes r.world d with ⟨full, added⟩ | ⟨earlier, pair, later, takes⟩
      · have none : r.world.freeEntries = 0 := by
          simpa [World.freeEntries, List.countP_eq_zero] using full
        exact ⟨r.world, probe_full added, by omega⟩
      · obtain ⟨world, held, outcome, table⟩ := probe_refused pci indexed takes refused
        have used := freeEntries_replace takes.table takes.empty rfl table
        exact ⟨world, outcome, by omega⟩
    obtain ⟨world, outcome, used⟩ := first
    have taken := step_probe outcome
    obtain ⟨s, reached, left⟩ := ih (indexed.step _ taken)
    refine ⟨s, ?_, ?_⟩
    · rw [List.map_cons, run_cons, taken]
      exact reached
    · rw [left, List.length_cons]
      change world.freeEntries - rest.length = _
      omega

/-! ## A probe and its remove -/

theorem accepted_takes (indexed : w.Indexed)
    (outcome : pciProbe pci answers w d = .ok (1, after)) :
    ∃ earlier pair later, Takes w d earlier pair later ∧
      after.pciCdev =
        earlier ++ { pair with pciDev := some d, cdev := some w.nextCdev } :: later ∧
      after.kernel = ((w.registered answers d pair.minor).pciRequestRegions (pci d) d
        PCI_REGIONS_NAME .ok).2 := by
  rcases full_or_takes w d with ⟨_, added⟩ | ⟨earlier, pair, later, takes⟩
  · have codes := (Prod.mk.inj (Except.ok.inj ((probe_full added).symm.trans outcome))).1
    exact absurd codes (by decide)
  · by_cases granted : answers.cdevAdd = .ok ∧ answers.regions = .ok
    · obtain ⟨world, accepted, results⟩ := probe_accepted pci indexed takes granted
      obtain ⟨_, rfl⟩ := Prod.mk.inj (Except.ok.inj (accepted.symm.trans outcome))
      exact ⟨earlier, pair, later, takes, results⟩
    · obtain ⟨world, held, refused, _⟩ := probe_refused pci indexed takes granted
      have codes := (Prod.mk.inj (Except.ok.inj (refused.symm.trans outcome))).1
      exact absurd codes (by decide)

/-- `pci_remove` releases BAR 0 and disables nothing. -/
theorem remove_held (w : World Dev) (d : Dev) :
    (pciRemove w d).kernel.enableCount = w.kernel.enableCount ∧
      ∀ bar, (pciRemove w d).kernel.regions d bar =
        if bar = SSA10A_BAR_IO then none else w.kernel.regions d bar := by
  have deleted (answer : Option CdevPtr) :
      (deleteCdev w.kernel answer).enableCount = w.kernel.enableCount ∧
        (deleteCdev w.kernel answer).regions = w.kernel.regions := by
    cases answer with
    | none => exact ⟨rfl, rfl⟩
    | some cdev => exact ⟨rfl, rfl⟩
  obtain ⟨enabled, regions⟩ := deleted (pciCdevSearchCdev w.pciCdev (pciCdevSearchMinor w.pciCdev d))
  rw [remove_kernel rfl]
  refine ⟨enabled, fun bar => ?_⟩
  simp only [Kernel.pciReleaseRegion, Function.update_self, regions, Function.update_apply]

/-- What stays reserved over probe and remove: the other implemented BARs, and what was before. -/
theorem reserved_after_remove {k : Kernel Dev CdevPtr} (regions : k.regions = w.kernel.regions)
    {hw : PciDev} (kernel : after.kernel = (k.pciRequestRegions hw d PCI_REGIONS_NAME .ok).2)
    (bar : Fin 6) : (pciRemove after d).kernel.regions d bar ≠ none ↔
      bar ≠ SSA10A_BAR_IO ∧ ((hw.bars bar).len ≠ 0 ∨ w.kernel.regions d bar ≠ none) := by
  have requested : after.kernel.regions d bar =
      if (hw.bars bar).len = 0 then w.kernel.regions d bar else some PCI_REGIONS_NAME := by
    rw [kernel]
    simp only [Kernel.pciRequestRegions, Function.update_self, regions]
  rw [(remove_held after d).2, requested]
  by_cases io : bar = SSA10A_BAR_IO
  · simp [io]
  · by_cases implemented : (hw.bars bar).len = 0
    · simp [io, implemented]
    · rw [if_neg io, if_neg implemented]
      exact ⟨fun _ => ⟨io, Or.inl implemented⟩, fun _ => Option.some_ne_none _⟩

/-- A device absent before has one entry after its probe, so the remove deletes the cdev the
probe registered, and that one only. -/
theorem cdevs_restored (indexed : w.Indexed) (absent : d ∉ w.present)
    (outcome : pciProbe pci answers w d = .ok (1, after)) :
    (pciRemove after d).kernel.cdevs = w.kernel.cdevs := by
  obtain ⟨earlier, pair, later, takes, table, kernel⟩ := accepted_takes indexed outcome
  have found : pciCdevSearchCdev after.pciCdev (pciCdevSearchMinor after.pciCdev d) =
      some w.nextCdev := by
    have ascending := (indexed.probe outcome).ascending
    rw [table] at ascending ⊢
    refine searchCdev_of_only ascending (List.mem_append_right _ List.mem_cons_self) rfl ?_
    intro other member holder
    by_contra different
    refine absent ⟨other, ?_, holder⟩
    rw [takes.table]
    simp only [List.mem_append, List.mem_cons, different, false_or] at member ⊢
    exact member.imp_right Or.inr
  obtain ⟨_, _, cdevs⟩ := registered_kernel w answers d pair.minor
  rw [remove_kernel found]
  change Function.update after.kernel.cdevs w.nextCdev (after.kernel.cdevs w.nextCdev).tail = _
  have registered : after.kernel.cdevs = _ := (congrArg Kernel.cdevs kernel).trans cdevs
  rw [registered, Function.update_self, Function.update_idem, List.tail_cons,
    Function.update_eq_self]

/-- A remove undoes the device's accepted probe exactly when the probe took nothing but an
entry, a cdev and BAR 0. -/
theorem remove_undoes_probe_iff (indexed : w.Indexed)
    (outcome : pciProbe pci answers w d = .ok (1, after)) :
    Restored d w (pciRemove after d) ↔ TakesReturnable (pci d) answers d w := by
  obtain ⟨earlier, pair, later, takes, table, kernel⟩ := accepted_takes indexed outcome
  have present := present_replace takes.table takes.empty rfl table
  obtain ⟨registeredRegions, registeredEnabled, _⟩ := registered_kernel w answers d pair.minor
  have counted : (pciRemove after d).kernel.enableCount d =
      w.kernel.enableCount d + (if answers.enable = .ok then 1 else 0) := by
    rw [(remove_held after d).1, kernel]
    exact registeredEnabled
  have reserved := reserved_after_remove registeredRegions kernel
  constructor
  · intro restored
    refine ⟨?_, ?_, ?_, ?_⟩
    · have same := restored.present
      rw [present_remove] at same
      rw [← same]
      exact fun member => member.2 rfl
    · intro enables
      have same := restored.enabled
      rw [counted, if_pos enables] at same
      omega
    · by_contra held
      exact ((reserved SSA10A_BAR_IO).mp ((restored.regions SSA10A_BAR_IO).mpr held)).1 rfl
    · intro bar other implemented
      exact (restored.regions bar).mp ((reserved bar).mpr ⟨other, Or.inl implemented⟩)
  · intro returnable
    refine ⟨?_, cdevs_restored indexed returnable.absent outcome, ?_, fun bar => ?_⟩
    · rw [present_remove, present]
      exact Set.insert_sdiff_self_of_notMem returnable.absent
    · rw [counted, if_neg returnable.notEnabled, Nat.add_zero]
    · rw [reserved]
      constructor
      · rintro ⟨other, implemented | held⟩
        · exact returnable.otherBars bar other implemented
        · exact held
      · intro held
        refine ⟨?_, Or.inr held⟩
        rintro rfl
        exact held returnable.barIo

theorem remove_undoes_probe_iff_boot :
    ∃ after, pciProbe (fun _ => sampleCard) allGranted (moduleLoad sampleLoad World.boot).2
        (0 : Nat) = .ok (1, after) ∧
      (Restored 0 (moduleLoad sampleLoad World.boot).2 (pciRemove after 0) ↔
        TakesReturnable sampleCard allGranted 0 (moduleLoad sampleLoad World.boot).2) := by
  have indexed := World.Indexed.start
    (show moduleLoad sampleLoad (World.boot : World Nat) = (0, _) from rfl)
  obtain ⟨after, outcome⟩ : ∃ after, pciProbe (fun _ => sampleCard) allGranted
      (moduleLoad sampleLoad World.boot).2 (0 : Nat) = .ok (1, after) := ⟨_, rfl⟩
  exact ⟨after, outcome, remove_undoes_probe_iff indexed outcome⟩

/-- Probed and removed once, a card with a memory BAR stays enabled, the BAR reserved. -/
theorem held_after_remove :
    ¬ ∀ world after : World Nat, moduleLoad sampleLoad World.boot = (0, world) →
      pciProbe (fun _ => sampleCard) allGranted world 0 = .ok (1, after) →
      Restored 0 world (pciRemove after 0) := by
  intro claim
  have same := (claim _ _ rfl rfl).enabled
  exact absurd same (by decide +kernel)

end LddLearn.Pcidev01
