import LddLearn.PciFake.Ownership

/-!
# The module from insertion to removal

`krn_module_exit` has every bound device removed before it gives the device numbers back, and
the error exit of `krn_module_init` gives back all it was given. So the numbers are never left
reserved; and where the probes keep to one device at a time, neither is a mapping or a region.
The devices stay enabled: nothing calls `pci_disable_device`.
-/

set_option autoImplicit false

namespace LddLearn.PciFake.Binding
open LddLearn.Linux LddLearn.Ssxa LddLearn.Library.Run

/-! ## Insertion and removal -/

section Module
variable {Dev : Type} [DecidableEq Dev]

/-- `krn_module_exit`; `pci_unregister_driver` removes the bound devices, here in the order of
the list. -/
def krnModuleExit (pci : Dev → PciDev) (boundDevices : List Dev) (w : World Dev) :
    Except Fault (World Dev) :=
  (boundDevices.foldlM (remove pci) w).map fun w =>
    { w with kernel := w.kernel.unregisterChrdevRegion w.devno MAX_DEVICE }

/-- Static storage as the module is inserted once more. -/
def World.inserted (w : World Dev) : World Dev := { World.boot with kernel := w.kernel }

/-- The run state, and whether the module is in. -/
structure ModuleState (Dev : Type) where
  core : RunState Dev
  loaded : Bool

/-- Before the first `krn_module_init`. -/
def ModuleState.out : ModuleState Dev := ⟨.start .boot, false⟩

inductive ModuleCall (Dev : Type) where
  | init (answers : InitAnswers)
  | callback (c : Callback Dev)
  | exit (boundDevices : List Dev)
  deriving DecidableEq, Repr

def moduleStep (pci : Dev → PciDev) (s : ModuleState Dev) : ModuleCall Dev → Option (ModuleState Dev)
  | .init answers =>
    let (ret, world) := krnModuleInit answers s.core.world.inserted
    some ⟨.start world, decide (ret = 0)⟩
  | .callback c => (step pci s.core c).map fun core => { s with core }
  | .exit boundDevices =>
    match krnModuleExit pci boundDevices s.core.world with
    | .ok world => some ⟨.start world, false⟩
    | .error _ => none

/-- A module that is out is inserted; one that is in is called by the PCI core, and removed
with the devices bound, each once. -/
def ModuleCalls (s : ModuleState Dev) : ModuleCall Dev → Prop
  | .init _ => s.loaded = false
  | .callback c => s.loaded = true ∧ CoreCalls s.core c
  | .exit boundDevices =>
    s.loaded = true ∧ boundDevices.Nodup ∧ boundDevices.toFinset = s.core.bound

instance (s : ModuleState Dev) : ∀ c : ModuleCall Dev, Decidable (ModuleCalls s c)
  | .init _ => inferInstanceAs (Decidable (s.loaded = false))
  | .callback c => inferInstanceAs (Decidable (s.loaded = true ∧ CoreCalls s.core c))
  | .exit boundDevices => inferInstanceAs (Decidable
      (s.loaded = true ∧ boundDevices.Nodup ∧ boundDevices.toFinset = s.core.bound))

/-- The probes keep to one device at a time. -/
def OneAtATime (pci : Dev → PciDev) (s : ModuleState Dev) : ModuleCall Dev → Prop
  | .callback c => HoldsAlone pci s.core c
  | _ => True

instance (pci : Dev → PciDev) (s : ModuleState Dev) : ∀ c : ModuleCall Dev, Decidable (OneAtATime pci s c)
  | .init _ => isTrue trivial
  | .callback c => inferInstanceAs (Decidable (HoldsAlone pci s.core c))
  | .exit _ => isTrue trivial

/-- While the module is out no number it was given is reserved. -/
def NumbersReturned (s : ModuleState Dev) : Prop :=
  s.loaded = false → s.core.world.kernel.chrdevs = []

end Module

variable {Dev : Type} [DecidableEq Dev] {pci : Dev → PciDev} {answers : ProbeAnswers}
  {init : InitAnswers} {r r' : RunState Dev} {w after : World Dev} {d e : Dev}
  {s t : ModuleState Dev}

/-! ## Device numbers -/

/-- Neither the numbers reserved nor the driver's note of them changes. -/
def SameNumbers (before after : World Dev) : Prop :=
  after.devno = before.devno ∧ after.kernel.chrdevs = before.kernel.chrdevs

omit [DecidableEq Dev] in
theorem SameNumbers.trans {first second third : World Dev} (left : SameNumbers first second)
    (right : SameNumbers second third) : SameNumbers first third :=
  ⟨right.1.trans left.1, right.2.trans left.2⟩

theorem probe_numbers (pci : Dev → PciDev) (answers : ProbeAnswers) (w : World Dev) (d : Dev) :
    SameNumbers w (probe pci answers w d).2 := by
  by_cases granted : answers.enable = .ok
  · by_cases regions : answers.hold.regions = .ok
    · by_cases fresh : w.kernel.FreshRange answers.hold.ioremap
        (scanBars (pci d) (w.claimed d).devResource).memSize
      · rw [probe_mapped granted regions fresh]
        exact ⟨rfl, rfl⟩
      · rw [probe_unmapped granted regions fresh]
        exact ⟨rfl, rfl⟩
    · rw [probe_refused granted regions]
      exact ⟨rfl, rfl⟩
  · rw [probe_not_enabled granted]
    exact ⟨rfl, rfl⟩

theorem remove_numbers (removed : remove pci w d = .ok after) : SameNumbers w after := by
  obtain ⟨slot, e, _, _, rfl⟩ := remove_ok removed
  exact ⟨rfl, rfl⟩

theorem step_numbers {c : Callback Dev} (taken : step pci r c = some r') :
    SameNumbers r.world r'.world := by
  cases c with
  | probe d answers =>
    obtain rfl := Option.some.inj (step_probe.symm.trans taken)
    exact probe_numbers pci answers r.world d
  | remove d =>
    cases removed : remove pci r.world d with
    | error fault => simp [step, removed] at taken
    | ok world =>
      obtain rfl := Option.some.inj ((step_remove removed).symm.trans taken)
      exact remove_numbers removed

theorem removes_numbers {devices : List Dev} (removed : devices.foldlM (remove pci) w = .ok after) :
    SameNumbers w after := by
  induction devices generalizing w with
  | nil =>
    obtain rfl := Except.ok.inj removed
    exact ⟨rfl, rfl⟩
  | cons d rest ih =>
    rw [List.foldlM_cons] at removed
    cases first : remove pci w d with
    | error fault => simp [first, bind, Except.bind] at removed
    | ok middle =>
      rw [first] at removed
      exact (remove_numbers first).trans (ih removed)

theorem exit_removed {boundDevices : List Dev}
    (removed : krnModuleExit pci boundDevices w = .ok after) :
    ∃ middle, boundDevices.foldlM (remove pci) w = .ok middle ∧
      after = { middle with
        kernel := middle.kernel.unregisterChrdevRegion middle.devno MAX_DEVICE } := by
  unfold krnModuleExit at removed
  cases loop : boundDevices.foldlM (remove pci) w with
  | error fault => simp [loop, Except.map] at removed
  | ok middle =>
    rw [loop] at removed
    exact ⟨middle, rfl, (Except.ok.inj removed).symm⟩

omit [DecidableEq Dev] in
theorem init_refused (refused : init.allocChrdev ≠ .ok) (w : World Dev) :
    krnModuleInit init w = (init.allocChrdev.code, w) := by
  have negative : init.allocChrdev.code < 0 := by simpa using refused
  unfold krnModuleInit
  rw [Kernel.allocChrdevRegion_refused refused]
  exact if_pos negative

/-- The world in which `pci_register_driver` is called. -/
def World.numbered (w : World Dev) (init : InitAnswers) : World Dev where
  devno := ⟨init.major, 0⟩
  driverContexts := initDriverContexts 0 MAX_DEVICE
  kernel := { w.kernel with
    chrdevs := w.kernel.chrdevs ++ Kernel.devRange ⟨init.major, 0⟩ MAX_DEVICE }

omit [DecidableEq Dev] in
theorem init_numbered (granted : init.allocChrdev = .ok) (w : World Dev) :
    krnModuleInit init w =
      if init.registerDriver = .ok then (0, w.numbered init)
      else (init.registerDriver.code, { w.numbered init with
        kernel := (w.numbered init).kernel.unregisterChrdevRegion ⟨init.major, 0⟩ MAX_DEVICE }) := by
  unfold krnModuleInit Kernel.allocChrdevRegion
  rw [granted]
  dsimp only
  rw [if_neg (Int.lt_irrefl 0)]
  cases init.registerDriver with
  | ok => rfl
  | error errno =>
    have negative : (Answer.error errno).code < 0 := by simp
    rw [if_pos negative]
    rfl

/-- The numbers reserved are the driver's while it is in, and none while it is out. -/
structure NumbersInv (s : ModuleState Dev) : Prop where
  out : NumbersReturned s
  inside : s.loaded = true →
    s.core.world.kernel.chrdevs = Kernel.devRange s.core.world.devno MAX_DEVICE

theorem init_step (init : InitAnswers) (s : ModuleState Dev) :
    moduleStep pci s (.init init) =
      some ⟨.start (krnModuleInit init s.core.world.inserted).2,
        decide ((krnModuleInit init s.core.world.inserted).1 = 0)⟩ := rfl

theorem exit_step {boundDevices : List Dev}
    (removed : krnModuleExit pci boundDevices s.core.world = .ok after) :
    moduleStep pci s (.exit boundDevices) = some ⟨.start after, false⟩ := by
  simp only [moduleStep, removed]

theorem NumbersInv.init_kept (before : NumbersInv s) (called : ModuleCalls s (.init init))
    (taken : moduleStep pci s (.init init) = some t) : NumbersInv t := by
  have empty : s.core.world.inserted.kernel.chrdevs = [] := before.out called
  obtain rfl := Option.some.inj ((init_step init s).symm.trans taken)
  by_cases granted : init.allocChrdev = .ok
  · rw [init_numbered granted]
    by_cases registered : init.registerDriver = .ok
    · rw [if_pos registered]
      refine ⟨fun out => absurd out (by simp), fun _ => ?_⟩
      change s.core.world.inserted.kernel.chrdevs ++ Kernel.devRange ⟨init.major, 0⟩ MAX_DEVICE = _
      rw [empty]
      rfl
    · rw [if_neg registered]
      refine ⟨fun _ => ?_, fun loaded => absurd loaded (by simpa using registered)⟩
      change (s.core.world.inserted.kernel.chrdevs ++ _).filter _ = []
      rw [empty]
      simp
  · rw [init_refused granted]
    exact ⟨fun _ => empty, fun loaded => absurd loaded (by simpa using granted)⟩

theorem NumbersInv.kept (c : ModuleCall Dev) (before : NumbersInv s) (called : ModuleCalls s c)
    (taken : moduleStep pci s c = some t) : NumbersInv t := by
  cases c with
  | init answers => exact before.init_kept called taken
  | callback c =>
    obtain ⟨core, stepped, rfl⟩ := Option.map_eq_some_iff.mp taken
    obtain ⟨devno, chrdevs⟩ := step_numbers stepped
    refine ⟨fun out => ?_, fun loaded => ?_⟩
    · exact chrdevs.trans (before.out out)
    · rw [devno, chrdevs]
      exact before.inside loaded
  | exit boundDevices =>
    cases removed : krnModuleExit pci boundDevices s.core.world with
    | error fault => simp [moduleStep, removed] at taken
    | ok world =>
      obtain rfl := Option.some.inj ((exit_step removed).symm.trans taken)
      obtain ⟨middle, loop, rfl⟩ := exit_removed removed
      obtain ⟨devno, chrdevs⟩ := removes_numbers loop
      refine ⟨fun _ => ?_, fun loaded => absurd loaded (by simp)⟩
      change middle.kernel.chrdevs.filter (· ∉ Kernel.devRange middle.devno MAX_DEVICE) = []
      rw [devno, chrdevs, before.inside called.1]
      simp

/-! ## Mappings and regions -/

/-- What is mapped and reserved is a bound device's. -/
structure HeldByBound (r : RunState Dev) : Prop where
  mapped : ∀ m ∈ r.world.kernel.mappings, ∃ e ∈ r.bound, r.mapped e = some m
  regions : ∀ e bar, r.world.kernel.regions e bar ≠ none → e ∈ r.bound

structure CleanInv (pci : Dev → PciDev) (r : RunState Dev) : Prop extends HeldByBound r where
  own : OwnInv pci r

omit [DecidableEq Dev] in
theorem CleanInv.empty [DecidableEq Dev] (invariant : CleanInv pci r) (nobody : r.bound = ∅) :
    r.world.kernel.mappings = [] ∧ ∀ d bar, r.world.kernel.regions d bar = none := by
  constructor
  · refine List.eq_nil_iff_forall_not_mem.mpr fun m live => ?_
    obtain ⟨e, bound, _⟩ := invariant.mapped m live
    exact Finset.notMem_empty e (nobody ▸ bound)
  · intro d bar
    by_contra held
    exact Finset.notMem_empty d (nobody ▸ invariant.regions d bar held)

/-- The one bound device is removed, and nothing of it stays. -/
theorem CleanInv.remove_kept (before : CleanInv pci r) (called : CoreCalls r (.remove d)) :
    ∃ r', step pci r (.remove d) = some r' ∧ CleanInv pci r' := by
  obtain ⟨r', taken, own⟩ := before.own.remove_kept called
  obtain ⟨m, after, mapped, _, removed, log⟩ := before.own.owned.removes d called
  obtain rfl := Option.some.inj ((step_remove removed).symm.trans taken)
  obtain ⟨slot, e, _, _, rfl⟩ := remove_ok removed
  rw [Kernel.freshLog, freed_log, List.drop_left] at log
  simp only [List.cons.injEq, Event.iounmap.injEq, Event.pciReleaseRegions.injEq] at log
  obtain ⟨⟨addr, _⟩, ⟨rfl, _⟩, _⟩ := log
  refine ⟨_, taken, ⟨?_, ?_⟩, own⟩
  · intro other live
    have kept : other ∈ r.world.kernel.mappings.filter
        (·.addr ≠ (r.world.driverContexts slot).baseAddr.addr) := live
    obtain ⟨earlier, elsewhere⟩ := List.mem_filter.mp kept
    obtain ⟨f, bound, its⟩ := before.mapped other earlier
    obtain rfl : f = e := before.own.alone f bound e called
    obtain rfl : other = m := Option.some.inj (its.symm.trans mapped)
    exact absurd addr.symm (by simpa using elsewhere)
  · intro f bar held
    have reserved : Function.update r.world.kernel.regions e (fun _ => none) f bar ≠ none := held
    by_cases same : f = e
    · rw [same, Function.update_self] at reserved
      exact absurd rfl reserved
    · rw [Function.update_of_ne same] at reserved
      exact Finset.mem_erase.mpr ⟨same, before.regions f bar reserved⟩

/-- The kernel's tables after a probe that got its regions and its mapping. -/
theorem probe_tables (granted : answers.enable = .ok) (regions : answers.hold.regions = .ok)
    (fresh : w.kernel.FreshRange answers.hold.ioremap
      (scanBars (pci d) (w.claimed d).devResource).memSize) :
    ∃ after m, probe pci answers w d = (0, after) ∧ Holds pci w after d m ∧
      after.kernel.mappings = m :: w.kernel.mappings ∧
      ∀ e, e ≠ d → after.kernel.regions e = w.kernel.regions e := by
  obtain ⟨after, m, probed, holds⟩ := probe_holds granted regions fresh
  have mapped := probe_mapped (d := d) granted regions fresh
  rw [probed] at mapped
  obtain ⟨_, rfl⟩ := Prod.mk.inj mapped
  have log := holds.log
  refine ⟨_, m, probed, holds, ?_, ?_⟩
  · have recorded : w.kernel.log ++ [.ioremap (heldMapping (pci d) d answers.hold (w.claimed d)
        w.kernel fresh)] ++ [.memsetIo answers.hold.ioremap
          (scanBars (pci d) (w.claimed d).devResource).memSize] =
        w.kernel.log ++ [.ioremap m, .memsetIo m.addr m.size] := log
    rw [List.append_assoc, List.append_cancel_left_eq] at recorded
    obtain rfl := Event.ioremap.inj (List.cons.inj recorded).1
    rfl
  · intro e different
    exact Function.update_of_ne different _ w.kernel.regions

theorem CleanInv.probe_kept (before : CleanInv pci r) (called : CoreCalls r (.probe d answers))
    (alone : HoldsAlone pci r (.probe d answers)) :
    ∃ r', step pci r (.probe d answers) = some r' ∧ CleanInv pci r' := by
  refine ⟨_, step_probe, ?_, before.own.kept called alone step_probe⟩
  by_cases granted : answers.enable = .ok
  · obtain ⟨nobody, maps⟩ := alone granted
    obtain ⟨noMapping, noRegion⟩ := before.empty nobody
    by_cases regions : answers.hold.regions = .ok
    · have fresh := maps regions
      rw [← claimed_memSize] at fresh
      obtain ⟨after, m, probed, holds, mappings, others⟩ := probe_tables granted regions fresh
      rw [probed]
      refine ⟨?_, ?_⟩
      · intro other live
        change other ∈ after.kernel.mappings at live
        rw [mappings, noMapping, List.mem_singleton] at live
        refine ⟨d, Finset.mem_insert_self d r.bound, ?_⟩
        change Function.update r.mapped d (Kernel.freshMapping r.world.kernel after.kernel) d = _
        rw [Function.update_self, Kernel.freshMapping, Kernel.freshLog, holds.log, List.drop_left, live]
        rfl
      · intro e bar held
        by_cases same : e = d
        · exact same ▸ Finset.mem_insert_self d r.bound
        · have untouched : after.kernel.regions e bar = r.world.kernel.regions e bar :=
            congrFun (others e same) bar
          exact absurd (untouched.trans (noRegion e bar)) held
    · rw [probe_refused granted regions]
      refine ⟨?_, fun e bar held => absurd (noRegion e bar) held⟩
      intro other live
      have earlier : other ∈ r.world.kernel.mappings := live
      rw [noMapping] at earlier
      exact absurd earlier List.not_mem_nil
  · rw [probe_not_enabled granted]
    refine ⟨?_, before.regions⟩
    intro other live
    obtain ⟨e, bound, its⟩ := before.mapped other live
    have different : e ≠ d := fun same => called (same ▸ bound)
    exact ⟨e, bound, (Function.update_of_ne different _ r.mapped).trans its⟩

theorem CleanInv.kept (c : Callback Dev) (before : CleanInv pci r) (called : CoreCalls r c)
    (alone : HoldsAlone pci r c) : ∃ r', step pci r c = some r' ∧ CleanInv pci r' := by
  cases c with
  | probe d answers => exact before.probe_kept called alone
  | remove d => exact before.remove_kept called

/-- Removing all bound devices leaves none, and nothing held. -/
theorem CleanInv.removeAll (before : CleanInv pci r) {boundDevices : List Dev}
    (once : boundDevices.Nodup) (all : boundDevices.toFinset = r.bound) :
    ∃ r', boundDevices.foldlM (remove pci) r.world = .ok r'.world ∧ r'.bound = ∅ ∧
      CleanInv pci r' := by
  induction boundDevices generalizing r with
  | nil => exact ⟨r, rfl, all.symm, before⟩
  | cons d rest ih =>
    have called : d ∈ r.bound := by simp [← all]
    obtain ⟨_, after, _, _, removed, _⟩ := before.own.owned.removes d called
    obtain ⟨r', taken, kept⟩ := before.remove_kept called
    obtain rfl := Option.some.inj ((step_remove removed).symm.trans taken)
    have fewer : rest.toFinset = r.bound.erase d := by
      rw [← all, List.toFinset_cons, Finset.erase_insert]
      simpa using (List.nodup_cons.mp once).1
    obtain ⟨last, loop, nobody, clean⟩ := ih kept once.of_cons fewer
    refine ⟨last, ?_, nobody, clean⟩
    rw [List.foldlM_cons, removed]
    exact loop

/-! ## Runs -/

/-- What holds of the module in and out. -/
structure LifeInv (pci : Dev → PciDev) (s : ModuleState Dev) : Prop where
  clean : CleanInv pci s.core
  out : s.loaded = false → s.core.bound = ∅

/-- The books are started anew over a kernel in which nothing is held. -/
theorem CleanInv.restart (before : CleanInv pci r) (nobody : r.bound = ∅)
    (same : w.kernel.drvdata = r.world.kernel.drvdata ∧ w.kernel.log = r.world.kernel.log ∧
      w.kernel.mappings = r.world.kernel.mappings ∧ w.kernel.regions = r.world.kernel.regions) :
    CleanInv pci (.start w) := by
  obtain ⟨drvdata, log, mappings, regions⟩ := same
  obtain ⟨noMapping, noRegion⟩ := before.empty nobody
  refine ⟨⟨?_, ?_⟩, ⟨?_, ?_⟩, ?_, ?_⟩
  · intro m live
    have earlier : m ∈ w.kernel.mappings := live
    rw [mappings, noMapping] at earlier
    exact absurd earlier List.not_mem_nil
  · intro e bar held
    change w.kernel.regions e bar ≠ none at held
    rw [regions] at held
    exact absurd (noRegion e bar) held
  · exact fun e bound => absurd bound (Finset.notMem_empty e)
  · intro event member
    exact before.own.owned.once event (log ▸ member)
  · exact fun e bound => absurd bound (Finset.notMem_empty e)
  · intro e slot chosen
    exact before.own.drvdata e slot (drvdata ▸ chosen)

theorem LifeInv.init_kept (before : LifeInv pci s) (called : ModuleCalls s (.init init)) :
    Leads (moduleStep pci) (LifeInv pci) s (.init init) := by
  refine ⟨_, init_step init s, before.clean.restart (before.out called) ?_, fun _ => rfl⟩
  by_cases granted : init.allocChrdev = .ok
  · rw [init_numbered granted]
    by_cases registered : init.registerDriver = .ok
    · rw [if_pos registered]
      exact ⟨rfl, rfl, rfl, rfl⟩
    · rw [if_neg registered]
      exact ⟨rfl, rfl, rfl, rfl⟩
  · rw [init_refused granted]
    exact ⟨rfl, rfl, rfl, rfl⟩

theorem LifeInv.kept (c : ModuleCall Dev) (before : LifeInv pci s) (called : ModuleCalls s c)
    (alone : OneAtATime pci s c) : Leads (moduleStep pci) (LifeInv pci) s c := by
  cases c with
  | init answers => exact before.init_kept called
  | callback c =>
    obtain ⟨core, taken, clean⟩ := before.clean.kept c called.2 alone
    refine ⟨{ s with core }, by rw [moduleStep, taken, Option.map_some], clean, fun isOut => ?_⟩
    exact absurd (called.1.symm.trans isOut) (by simp)
  | exit boundDevices =>
    obtain ⟨last, loop, nobody, clean⟩ := before.clean.removeAll called.2.1 called.2.2
    have removed : krnModuleExit pci boundDevices s.core.world = .ok { last.world with
        kernel := last.world.kernel.unregisterChrdevRegion last.world.devno MAX_DEVICE } := by
      rw [krnModuleExit, loop, Except.map]
    exact ⟨_, exit_step removed, clean.restart nobody ⟨rfl, rfl, rfl, rfl⟩, fun _ => rfl⟩

end LddLearn.PciFake.Binding
