import LddLearn.Pcidev02.Mounting
import LddLearn.Pcidev02.Nesting

/-!
# From load to unload

Where devices leave in the reverse order of their coming, what the kernel holds for the driver
is at every moment that of the devices attached, whatever has failed. So a module that is out,
over any number of insertions, has left no number, no class, no mapping, no region and no cdev
behind. The devices stay enabled. A run ends where the driver would use a class that is not there:
with an ERR_PTR from `class_create`, and with a device that comes or leaves after `module_unload`
has destroyed the class.
-/

set_option autoImplicit false

namespace LddLearn.Pcidev02.Lifetime
open LddLearn.Linux LddLearn.Ssxa LddLearn.Library.Run

/-! ## Insertions -/

inductive Phase where
  | out
  | inserted
  | unloading
  deriving DecidableEq, Repr

section Module
variable {Dev : Type}

/-- Static storage as the module is inserted once more. -/
def inserted (w : World Dev) : World Dev := { World.boot with kernel := w.kernel }

structure ModuleState (Dev : Type) where
  core : Nested Dev
  phase : Phase

/-- Before the first `module_load`. -/
def ModuleState.boot : ModuleState Dev := ⟨.start .boot, .out⟩

def ModuleState.world (s : ModuleState Dev) : World Dev := s.core.core.world

inductive ModuleCall (Dev : Type) where
  | load (answers : LoadAnswers)
  | callback (c : Callback Dev)
  | unload
  | unregistered
  deriving DecidableEq, Repr

/-- `unload` is `module_unload` up to `pci_unregister_driver`, whose return is `unregistered`. -/
def moduleStep [DecidableEq Dev] (pci : Dev → PciDev) (s : ModuleState Dev) :
    ModuleCall Dev → Option (ModuleState Dev)
  | .load answers =>
    let (ret, world) := moduleLoad answers (inserted s.world)
    some ⟨.start world, if ret = 0 then .inserted else .out⟩
  | .callback c => (nestedStep pci s.core c).map fun core => { s with core }
  | .unload =>
    some ⟨{ s.core with core := { s.core.core with world := moduleUnload s.world } }, .unloading⟩
  | .unregistered => some { s with phase := .out }

/-- `class_create` answers no ERR_PTR. Devices are attached and detached, the latest first, until
`module_unload` destroys the class, and `pci_unregister_driver` returns when all are detached. -/
def ModuleCalls (s : ModuleState Dev) : ModuleCall Dev → Prop
  | .load answers => s.phase = .out ∧ answers.classCreate ≠ .errPtr
  | .callback c => s.phase = .inserted ∧ NestedCalls s.core c
  | .unload => s.phase = .inserted
  | .unregistered => s.phase = .unloading ∧ s.core.stack = []

instance [DecidableEq Dev] (s : ModuleState Dev) : ∀ c : ModuleCall Dev, Decidable (ModuleCalls s c)
  | .load answers => inferInstanceAs (Decidable (s.phase = .out ∧ answers.classCreate ≠ .errPtr))
  | .callback c => inferInstanceAs (Decidable (s.phase = .inserted ∧ NestedCalls s.core c))
  | .unload => inferInstanceAs (Decidable (s.phase = .inserted))
  | .unregistered => inferInstanceAs (Decidable (s.phase = .unloading ∧ s.core.stack = []))

/-- What is mapped, reserved and registered is that of the devices attached, a cdev for each
context in use. -/
structure Ledger (w : World Dev) (stack : List Dev) : Prop where
  mapped : ∀ m ∈ w.kernel.mappings, ∃ e ∈ stack, ∃ slot, w.kernel.drvdata e = some slot ∧
    (w.driverContexts slot).baseAddr.addr = m.addr
  regions : ∀ e, e ∉ stack → ∀ bar, w.kernel.regions e bar = none
  cdevs : ∀ slot : ContextPtr, (w.kernel.cdevs slot).length ≤ 1 ∧
    (stack.length ≤ slot.val → w.kernel.cdevs slot = [])

/-- The kernel has nothing of the module but how often it has enabled the devices. -/
structure GivenBack (k : DriverKernel Dev) : Prop where
  mappings : k.mappings = []
  regions : ∀ e bar, k.regions e bar = none
  cdevs : ∀ slot, k.cdevs slot = []
  chrdevs : k.chrdevs = []
  classes : k.classes = []

/-- What is held is of devices attached, the class is there while the module is in, and nothing is
when it is out. -/
structure Accounted (s : ModuleState Dev) : Prop where
  ledger : Ledger s.world s.core.stack
  live : s.phase = .inserted → classLive s.world
  out : s.phase = .out → GivenBack s.world.kernel

end Module

variable {Dev : Type} [DecidableEq Dev] {pci : Dev → PciDev} {answers : AttachAnswers}
  {load : LoadAnswers} {w after world : World Dev} {d e : Dev} {slot : ContextPtr}
  {n n' : Nested Dev} {s t : ModuleState Dev}

/-! ## The tables through one call -/

/-- What `hold_pci_resources` has done to the mappings and regions. -/
structure Holding (slot : ContextPtr) (d : Dev) (w held : World Dev) : Prop where
  mapped : ∀ m ∈ held.kernel.mappings,
    m ∈ w.kernel.mappings ∨ (held.driverContexts slot).baseAddr.addr = m.addr
  others : ∀ e, e ≠ d → held.kernel.regions e = w.kernel.regions e

theorem holdPciResources_holding (pci : Dev → PciDev) (holdAnswers : HoldAnswers) (w : World Dev)
    (d : Dev) (slot : ContextPtr) : Holding slot d w (holdPciResources pci holdAnswers w d slot).2 := by
  unfold holdPciResources
  by_cases granted : holdAnswers.regions = .ok
  · by_cases fresh : w.kernel.FreshRange holdAnswers.ioremap
        (scanBars (pci d) (w.driverContexts slot).devResource).memSize
    · rw [hold_mapped granted fresh]
      refine ⟨fun m live => ?_, fun e different => Function.update_of_ne different ..⟩
      rcases List.mem_cons.mp live with rfl | earlier
      · right
        simp [World.setContext, mappedContext, remappedContext, heldMapping]
      · exact Or.inl earlier
    · rw [hold_unmapped granted fresh]
      refine ⟨fun m live => Or.inl live, fun e different => ?_⟩
      exact (Function.update_of_ne different ..).trans (Function.update_of_ne different ..)
  · rw [hold_refused granted]
    exact ⟨fun m live => Or.inl live, fun e _ => rfl⟩

theorem held_holding (pci : Dev → PciDev) (holdAnswers : HoldAnswers) (w : World Dev) (d : Dev)
    (slot : ContextPtr) : Holding slot d w ((w.enabled d).held pci holdAnswers d slot) := by
  have holding := holdPciResources_holding pci holdAnswers ((w.enabled d).opened d slot) d slot
  exact ⟨holding.mapped, holding.others⟩

/-- What an attach that reached its context has done to the tables: only one that returned 1 has
left something of its own. -/
structure Claims (slot : ContextPtr) (d : Dev) (w : World Dev) (ret : Int) (after : World Dev) :
    Prop where
  mapped : ∀ m ∈ after.kernel.mappings, m ∈ w.kernel.mappings ∨
    ret = 1 ∧ (after.driverContexts slot).baseAddr.addr = m.addr
  others : ∀ e, e ≠ d → after.kernel.regions e = w.kernel.regions e
  refused : ret = 0 → ∀ bar, w.kernel.regions d bar = none → after.kernel.regions d bar = none
  cdevs : after.kernel.cdevs = w.kernel.cdevs ∨ ret = 1 ∧
    after.kernel.cdevs = Function.update w.kernel.cdevs slot (⟨w.devNo slot, d⟩ :: w.kernel.cdevs slot)
  chrdevs : after.kernel.chrdevs = w.kernel.chrdevs
  classes : after.kernel.classes = w.kernel.classes
  ssxaDevno : after.ssxaDevno = w.ssxaDevno

theorem attach_claims (pci : Dev → PciDev) (d : Dev) (picked : w.devAttachCounter = slot.val)
    (enabled : answers.enable = .ok) :
    ∃ ret after, pciDriverAttach pci answers w d = .ok (ret, after) ∧
      PastEnable slot d w ret after ∧ Claims slot d w ret after := by
  have reached : pciDriverAttach pci answers w d = _ := attach_past_enable picked enabled
  have holding := held_holding pci answers.hold w d slot
  obtain ⟨devNo, _, same⟩ := held_frame pci answers.hold w d slot
  have ssxaDevno : ((w.enabled d).held pci answers.hold d slot).ssxaDevno = w.ssxaDevno := rfl
  by_cases granted : answers.hold.regions = .ok
  · by_cases added : answers.cdevAdd = .ok
    · have outcome := reached.trans (attachContext_mounted granted added)
      refine ⟨_, _, outcome, pastEnable_of_outcome picked enabled outcome, ?_⟩
      generalize (w.enabled d).held pci answers.hold d slot = held at holding devNo same ssxaDevno
      refine ⟨?_, holding.others, fun never => absurd never (by decide), Or.inr ⟨rfl, ?_⟩,
        same.chrdevs, same.classes, ssxaDevno⟩
      · intro m live
        refine (holding.mapped m live).imp_right fun base => ⟨rfl, ?_⟩
        simpa [World.mounted, World.setContext] using base
      · change Function.update held.kernel.cdevs slot _ = _
        rw [devNo, same.cdevs]
    · have outcome := reached.trans (attachContext_unmounted granted added)
      refine ⟨_, _, outcome, pastEnable_of_outcome picked enabled outcome, ?_⟩
      generalize (w.enabled d).held pci answers.hold d slot = held at holding devNo same ssxaDevno
      refine ⟨?_, ?_, fun _ bar _ => ?_, Or.inl same.cdevs, same.chrdevs, same.classes, ssxaDevno⟩
      · intro m live
        obtain ⟨earlier, elsewhere⟩ := List.mem_filter.mp
          (show m ∈ held.kernel.mappings.filter (·.addr ≠ (held.driverContexts slot).baseAddr.addr)
            from live)
        refine Or.inl ((holding.mapped m earlier).resolve_right fun base => ?_)
        exact absurd base.symm (by simpa using elsewhere)
      · intro e different
        exact (Function.update_of_ne different ..).trans (holding.others e different)
      · exact congrFun (Function.update_self d (fun _ => none) held.kernel.regions) bar
  · have outcome := reached.trans (attachContext_refused granted)
    exact ⟨_, _, outcome, pastEnable_of_outcome picked enabled outcome,
      ⟨fun m live => Or.inl live, fun e _ => rfl, fun _ bar free => free, Or.inl rfl, rfl, rfl, rfl⟩⟩

/-! ## The ledger -/

theorem nestedStep_refused (outcome : pciDriverAttach pci answers n.core.world d = .ok (0, after)) :
    nestedStep pci n (.attach d answers) = some ⟨n.core.afterAttach d 0 after, n.stack⟩ := by
  rw [nestedStep_attach (step_attach outcome), if_neg (by simp [RunState.afterAttach])]

theorem nestedStep_accepted (outcome : pciDriverAttach pci answers n.core.world d = .ok (1, after)) :
    nestedStep pci n (.attach d answers) = some ⟨n.core.afterAttach d 1 after, d :: n.stack⟩ := by
  rw [nestedStep_attach (step_attach outcome), if_pos (by simp [RunState.afterAttach])]

omit [DecidableEq Dev] in
theorem Ledger.empty (ledger : Ledger w []) :
    w.kernel.mappings = [] ∧ (∀ e bar, w.kernel.regions e bar = none) ∧
      ∀ slot, w.kernel.cdevs slot = [] := by
  refine ⟨?_, fun e bar => ledger.regions e List.not_mem_nil bar, fun slot => ?_⟩
  · refine List.eq_nil_iff_forall_not_mem.mpr fun m live => ?_
    obtain ⟨e, never, _⟩ := ledger.mapped m live
    exact List.not_mem_nil never
  · exact (ledger.cdevs slot).2 (Nat.zero_le _)

/-- The devices below keep their contexts, and with them what is theirs. -/
theorem Ledger.below (before : Ledger n.core.world n.stack) (invariant : StackInv n)
    (picked : n.core.world.devAttachCounter = slot.val) (outside : d ∉ n.stack) {ret : Int}
    (effect : PastEnable slot d n.core.world ret after) {m : Mapping Dev}
    (live : m ∈ n.core.world.kernel.mappings) :
    ∃ e ∈ n.stack, ∃ used, after.kernel.drvdata e = some used ∧
      (after.driverContexts used).baseAddr.addr = m.addr := by
  obtain ⟨e, member, used, chosen, base⟩ := before.mapped m live
  obtain ⟨own, same, lower⟩ := invariant.placed.below member
  obtain rfl : used = own := Option.some.inj (chosen.symm.trans same)
  have depth := invariant.depth
  have different : used ≠ slot := by
    rintro rfl
    omega
  refine ⟨e, member, used, ?_, ?_⟩
  · rw [effect.drvdata, Function.update_of_ne fun here : e = d => outside (here ▸ member)]
    exact chosen
  · rw [effect.others used different]
    exact base

theorem Ledger.attach_kept (before : Ledger n.core.world n.stack) (invariant : StackInv n)
    (called : NestedCalls n (.attach d answers))
    (taken : nestedStep pci n (.attach d answers) = some n') : Ledger n'.core.world n'.stack := by
  obtain ⟨outside, room⟩ := called
  have depth := invariant.depth
  by_cases enabled : answers.enable = .ok
  · obtain ⟨slot, picked⟩ : ∃ slot : ContextPtr, n.core.world.devAttachCounter = slot.val :=
      slot_of_counter ⟨by omega, by omega⟩
    obtain ⟨ret, after, outcome, effect, claims⟩ := attach_claims pci d picked enabled
    have below := fun m live => before.below invariant picked outside effect (m := m) live
    rcases effect.counter with ⟨rfl, _⟩ | ⟨rfl, _⟩
    · rw [nestedStep_refused outcome] at taken
      obtain rfl := Option.some.inj taken
      refine ⟨fun m live => ?_, fun e absent bar => ?_, fun other => ?_⟩
      · exact below m ((claims.mapped m live).resolve_right fun never => absurd never.1 (by decide))
      · by_cases same : e = d
        · subst same
          exact claims.refused rfl bar (before.regions e absent bar)
        · exact (congrFun (claims.others e same) bar).trans (before.regions e absent bar)
      · have cdevs : after.kernel.cdevs = n.core.world.kernel.cdevs :=
          claims.cdevs.resolve_right fun never => absurd never.1 (by decide)
        change (after.kernel.cdevs other).length ≤ 1 ∧ (_ → after.kernel.cdevs other = [])
        rw [cdevs]
        exact before.cdevs other
    · rw [nestedStep_accepted outcome] at taken
      obtain rfl := Option.some.inj taken
      refine ⟨fun m live => ?_, fun e absent bar => ?_, fun other => ?_⟩
      · rcases claims.mapped m live with earlier | ⟨_, base⟩
        · obtain ⟨e, member, used⟩ := below m earlier
          exact ⟨e, List.mem_cons_of_mem d member, used⟩
        · refine ⟨d, List.mem_cons_self, slot, ?_, base⟩
          change after.kernel.drvdata d = some slot
          rw [effect.drvdata, Function.update_self]
      · obtain ⟨different, deeper⟩ := not_or.mp (List.mem_cons.not.mp absent)
        exact (congrFun (claims.others e different) bar).trans (before.regions e deeper bar)
      · obtain ⟨single, unused⟩ := before.cdevs other
        change (after.kernel.cdevs other).length ≤ 1 ∧
          ((d :: n.stack).length ≤ other.val → after.kernel.cdevs other = [])
        rw [List.length_cons]
        rcases claims.cdevs with same | ⟨_, added⟩
        · rw [same]
          exact ⟨single, fun above => unused (by omega)⟩
        · rw [added]
          by_cases here : other = slot
          · subst here
            rw [Function.update_self, unused (by omega)]
            exact ⟨le_refl 1, fun above => by omega⟩
          · rw [Function.update_of_ne here]
            exact ⟨single, fun above => unused (by omega)⟩
  · have counter_le := invariant.slots.counter.counter_le
    rw [nestedStep_refused (attach_not_enabled pci d counter_le enabled)] at taken
    obtain rfl := Option.some.inj taken
    exact before

theorem Ledger.detach_kept (before : Ledger n.core.world n.stack) (invariant : StackInv n)
    (called : NestedCalls n (.detach d)) (taken : nestedStep pci n (.detach d) = some n') :
    Ledger n'.core.world n'.stack := by
  obtain ⟨core, stack⟩ := n
  obtain ⟨below, rfl⟩ : ∃ below, stack = d :: below := List.head?_eq_some_iff.mp called
  obtain ⟨slot, chosen, depth⟩ := invariant.placed.1
  obtain ⟨used, same, owned⟩ := invariant.slots.owned d (invariant.detachAttached called)
  obtain rfl : used = slot := Option.some.inj (same.symm.trans chosen)
  rw [nestedStep, step_detach (detach_effect chosen owned)] at taken
  obtain rfl := Option.some.inj taken
  have tables := detached_unmounted pci core.world d used
  refine ⟨fun m live => ?_, fun e absent bar => ?_, fun other => ?_⟩
  · obtain ⟨earlier, elsewhere⟩ := List.mem_filter.mp (show m ∈ core.world.kernel.mappings.filter
      (·.addr ≠ (core.world.driverContexts used).baseAddr.addr) from live)
    obtain ⟨e, member, own, its, base⟩ := before.mapped m earlier
    refine ⟨e, (List.mem_cons.mp member).resolve_left ?_, own, its, base⟩
    rintro rfl
    obtain rfl : own = used := Option.some.inj (its.symm.trans chosen)
    exact absurd base.symm (by simpa using elsewhere)
  · change Function.update core.world.kernel.regions d (fun _ => none) e bar = none
    by_cases same : e = d
    · rw [same, Function.update_self]
    · rw [Function.update_of_ne same]
      exact before.regions e (fun member => absent ((List.mem_cons.mp member).resolve_left same)) bar
  · obtain ⟨single, unused⟩ := before.cdevs other
    rw [List.length_cons] at unused
    change ((core.world.detached pci d used).kernel.cdevs other).length ≤ 1 ∧
      (below.length ≤ other.val → (core.world.detached pci d used).kernel.cdevs other = [])
    rw [tables.cdevs]
    by_cases here : other = used
    · subst here
      have cleared : (core.world.kernel.cdevs other).tail = [] :=
        List.eq_nil_of_length_eq_zero (by rw [List.length_tail]; exact Nat.sub_eq_zero_of_le single)
      rw [Function.update_self, cleared]
      exact ⟨Nat.zero_le 1, fun _ => rfl⟩
    · have apart : other.val ≠ below.length := fun same => here (Fin.ext (same.trans depth.symm))
      rw [Function.update_of_ne here]
      exact ⟨single, fun above => unused (by omega)⟩

theorem Ledger.kept (c : Callback Dev) (before : Ledger n.core.world n.stack) (invariant : StackInv n)
    (called : NestedCalls n c) (taken : nestedStep pci n c = some n') :
    Ledger n'.core.world n'.stack := by
  cases c with
  | attach d answers => exact before.attach_kept invariant called taken
  | detach d => exact before.detach_kept invariant called taken

/-! ## Numbers and the class -/

/-- The numbers reserved are the driver's while it is in, and so is the one class there may be. -/
structure Registered (phase : Phase) (w : World Dev) : Prop where
  numbers : w.kernel.chrdevs =
    if phase = .inserted then Kernel.devRange w.ssxaDevno MAX_DEVICE else []
  classes : ∀ serial ∈ w.kernel.classes, phase = .inserted ∧ w.devClass = .valid serial

omit [DecidableEq Dev] in
theorem Registered.of_same {phase : Phase} (before : Registered phase w)
    (chrdevs : after.kernel.chrdevs = w.kernel.chrdevs) (ssxaDevno : after.ssxaDevno = w.ssxaDevno)
    (classes : after.kernel.classes = w.kernel.classes) (devClass : after.devClass = w.devClass) :
    Registered phase after := by
  refine ⟨?_, ?_⟩
  · rw [chrdevs, ssxaDevno]
    exact before.numbers
  · rw [classes, devClass]
    exact before.classes

theorem Registered.kept {phase : Phase} (c : Callback Dev) (before : Registered phase n.core.world)
    (invariant : StackInv n) (called : NestedCalls n c) (taken : nestedStep pci n c = some n') :
    Registered phase n'.core.world := by
  have core := nestedStep_core taken
  cases c with
  | attach d answers =>
    obtain ⟨_, room⟩ := called
    have depth := invariant.depth
    by_cases enabled : answers.enable = .ok
    · obtain ⟨slot, picked⟩ : ∃ slot : ContextPtr, n.core.world.devAttachCounter = slot.val :=
        slot_of_counter ⟨by omega, by omega⟩
      obtain ⟨ret, after, outcome, effect, claims⟩ := attach_claims pci d picked enabled
      rw [step_attach outcome] at core
      rw [← Option.some.inj core]
      exact before.of_same claims.chrdevs claims.ssxaDevno claims.classes effect.devClass
    · rw [step_attach (attach_not_enabled pci d invariant.slots.counter.counter_le enabled)] at core
      rw [← Option.some.inj core]
      exact before
  | detach d =>
    obtain ⟨slot, owner, detached, _⟩ :=
      invariant.slots.counter.detach_kept pci (invariant.detachAttached called)
    rw [detached] at core
    rw [← Option.some.inj core]
    have tables := detached_unmounted pci n.core.world owner slot
    exact before.of_same tables.chrdevs (detached_ssxaDevno ..) tables.classes (detached_devClass ..)

/-! ## Load and unload -/

omit [DecidableEq Dev] in
/-- A load changes numbers and classes only. -/
theorem load_tables (load : LoadAnswers) (w : World Dev) :
    (moduleLoad load w).2.kernel.mappings = w.kernel.mappings ∧
      (moduleLoad load w).2.kernel.regions = w.kernel.regions ∧
      (moduleLoad load w).2.kernel.cdevs = w.kernel.cdevs := by
  by_cases granted : load.allocChrdev = .ok
  · have classed : (w.classed load).kernel.mappings = w.kernel.mappings ∧
        (w.classed load).kernel.regions = w.kernel.regions ∧
        (w.classed load).kernel.cdevs = w.kernel.cdevs := by
      unfold World.classed
      cases load.classCreate with
      | null => exact ⟨rfl, rfl, rfl⟩
      | errPtr => exact ⟨rfl, rfl, rfl⟩
      | created => exact ⟨rfl, rfl, rfl⟩
    rw [load_reserved granted]
    dsimp only
    split
    · exact classed
    · split
      · exact classed
      · exact classed
  · rw [load_unreserved granted]
    exact ⟨rfl, rfl, rfl⟩

omit [DecidableEq Dev] in
/-- The numbers and the class of the module after `class_create`. -/
theorem classed_registered (load : LoadAnswers) (chrdevs : w.kernel.chrdevs = [])
    (classes : w.kernel.classes = []) : Registered .inserted (w.classed load) := by
  unfold World.classed
  cases load.classCreate with
  | null =>
    refine ⟨?_, ?_⟩
    · simp [Kernel.classCreate, chrdevs]
    · simp [Kernel.classCreate, classes]
  | errPtr =>
    refine ⟨?_, ?_⟩
    · simp [Kernel.classCreate, chrdevs]
    · simp [Kernel.classCreate, classes]
  | created =>
    refine ⟨?_, ?_⟩
    · simp [Kernel.classCreate, chrdevs]
    · simp [Kernel.classCreate, classes]

omit [DecidableEq Dev] in
/-- Giving the numbers and the class back leaves none, on an error exit and in `module_unload`. -/
theorem Registered.given_back {phase : Phase} (before : Registered .inserted w)
    (out : phase ≠ .inserted) : Registered phase (moduleUnload w) := by
  have numbers : w.kernel.chrdevs = Kernel.devRange w.ssxaDevno MAX_DEVICE := before.numbers
  refine ⟨?_, ?_⟩
  · rw [if_neg out]
    change w.kernel.chrdevs.filter (· ∉ Kernel.devRange w.ssxaDevno MAX_DEVICE) = []
    simp [numbers]
  · intro serial left
    obtain ⟨there, other⟩ := List.mem_filter.mp
      (show serial ∈ w.kernel.classes.filter (fun serial => .valid serial ≠ w.devClass) from left)
    exact absurd (before.classes serial there).2.symm (by simpa using other)

omit [DecidableEq Dev] in
theorem Registered.loaded {phase : Phase} (before : Registered phase w) (out : phase ≠ .inserted)
    (load : LoadAnswers) :
    Registered (if (moduleLoad load (inserted w)).1 = 0 then .inserted else .out)
      (moduleLoad load (inserted w)).2 := by
  have chrdevs : (inserted w).kernel.chrdevs = [] := before.numbers.trans (if_neg out)
  have classes : (inserted w).kernel.classes = [] :=
    List.eq_nil_iff_forall_not_mem.mpr fun serial there => out (before.classes serial there).1
  by_cases granted : load.allocChrdev = .ok
  · have classed := classed_registered load chrdevs classes
    rw [load_reserved granted]
    dsimp only
    by_cases isNull : load.classCreate = .null
    · rw [if_pos isNull]
      dsimp only
      rw [if_neg (by decide)]
      refine ⟨?_, ?_⟩
      · have numbers : ((inserted w).classed load).kernel.chrdevs =
            Kernel.devRange ⟨load.major, 0⟩ MAX_DEVICE := classed.numbers
        simp [Kernel.unregisterChrdevRegion, numbers]
      · intro serial there
        have null : ((inserted w).classed load).devClass = .null := by
          simp [World.classed, Kernel.classCreate, isNull]
        have valid := (classed.classes serial there).2
        exact absurd (null.symm.trans valid) (by simp)
    · rw [if_neg isNull]
      by_cases registered : load.registerDriver = .ok
      · rw [if_pos registered, if_pos rfl]
        exact classed
      · have failed : load.registerDriver.code ≠ 0 := by simpa using registered
        rw [if_neg registered, if_neg failed]
        exact classed.given_back (by decide)
  · have failed : load.allocChrdev.code ≠ 0 := by simpa using granted
    rw [load_unreserved granted, if_neg failed]
    refine ⟨chrdevs, fun serial there => ?_⟩
    rw [classes] at there
    exact absurd there List.not_mem_nil

theorem stackInv_loaded (loaded : moduleLoad load (inserted w) = (0, world)) :
    StackInv (Nested.start world) := by
  obtain ⟨_, _, rfl⟩ := load_classed loaded
  exact ⟨.start rfl rfl, rfl, List.nodup_nil, rfl, trivial⟩

/-- The books of the module in and out. -/
structure LifeInv (s : ModuleState Dev) : Prop where
  ledger : Ledger s.world s.core.stack
  registered : Registered s.phase s.world
  live : s.phase = .inserted → classLive s.world
  stack : s.phase ≠ .out → StackInv s.core
  out : s.phase = .out → s.core.stack = []

theorem LifeInv.accounted (invariant : LifeInv s) : Accounted s := by
  refine ⟨invariant.ledger, invariant.live, fun out => ?_⟩
  have ledger := invariant.ledger
  rw [invariant.out out] at ledger
  obtain ⟨mappings, regions, cdevs⟩ := ledger.empty
  have inside : s.phase ≠ .inserted := by simp [out]
  refine ⟨mappings, regions, cdevs, invariant.registered.numbers.trans (if_neg inside), ?_⟩
  exact List.eq_nil_iff_forall_not_mem.mpr fun serial there =>
    inside (invariant.registered.classes serial there).1

theorem LifeInv.boot : LifeInv (ModuleState.boot : ModuleState Dev) where
  ledger := ⟨fun _ never => absurd never List.not_mem_nil, fun _ _ _ => rfl,
    fun _ => ⟨Nat.zero_le 1, fun _ => rfl⟩⟩
  registered := ⟨rfl, fun _ never => absurd never List.not_mem_nil⟩
  live := fun inside => absurd (show Phase.out = .inserted from inside) (by decide)
  stack := fun inside => absurd rfl inside
  out := fun _ => rfl

theorem LifeInv.loaded (before : LifeInv s) (out : s.phase = .out) (load : LoadAnswers)
    (made : load.classCreate ≠ .errPtr) :
    LifeInv (⟨.start (moduleLoad load (inserted s.world)).2,
      if (moduleLoad load (inserted s.world)).1 = 0 then .inserted else .out⟩ : ModuleState Dev) := by
  have ledger := before.ledger
  rw [before.out out] at ledger
  obtain ⟨noMapping, noRegion, noCdev⟩ := ledger.empty
  obtain ⟨mappings, regions, cdevs⟩ := load_tables load (inserted s.world)
  refine ⟨⟨?_, ?_, ?_⟩, before.registered.loaded (by simp [out]) load, fun inside => ?_,
    fun inside => ?_, fun _ => rfl⟩
  · intro m live
    change m ∈ (moduleLoad load (inserted s.world)).2.kernel.mappings at live
    rw [mappings] at live
    change m ∈ s.world.kernel.mappings at live
    rw [noMapping] at live
    exact absurd live List.not_mem_nil
  · intro e _ bar
    change (moduleLoad load (inserted s.world)).2.kernel.regions e bar = none
    rw [regions]
    exact noRegion e bar
  · intro slot
    change ((moduleLoad load (inserted s.world)).2.kernel.cdevs slot).length ≤ 1 ∧
      (_ → (moduleLoad load (inserted s.world)).2.kernel.cdevs slot = [])
    rw [cdevs]
    change (s.world.kernel.cdevs slot).length ≤ 1 ∧ (_ → s.world.kernel.cdevs slot = [])
    rw [noCdev slot]
    exact ⟨Nat.zero_le 1, fun _ => rfl⟩
  · have success : (moduleLoad load (inserted s.world)).1 = 0 := by
      by_contra failed
      exact absurd ((if_neg failed).symm.trans inside) (by decide)
    exact classLive_loaded (Prod.ext success rfl) made
  · have success : (moduleLoad load (inserted s.world)).1 = 0 := by
      by_contra failed
      exact inside (if_neg failed)
    exact stackInv_loaded (Prod.ext success rfl)

theorem LifeInv.unload (before : LifeInv s) (inside : s.phase = .inserted) :
    LifeInv (⟨{ s.core with core := { s.core.core with world := moduleUnload s.world } }, .unloading⟩ :
      ModuleState Dev) := by
  have stack := before.stack (by simp [inside])
  have registered := before.registered
  rw [inside] at registered
  refine ⟨⟨before.ledger.mapped, before.ledger.regions, before.ledger.cdevs⟩,
    registered.given_back (by simp), fun never => absurd never (by simp), fun _ => ?_,
    fun never => absurd never (by simp)⟩
  have counter := stack.slots.counter
  exact ⟨⟨⟨counter.attached_le, counter.counter_le, counter.in_use⟩, stack.slots.minors,
    stack.slots.owned⟩, stack.attached, stack.nodup, stack.depth, stack.placed⟩

theorem LifeInv.kept (c : ModuleCall Dev) (before : LifeInv s) (called : ModuleCalls s c) :
    Leads (moduleStep pci) LifeInv s c := by
  cases c with
  | load answers => exact ⟨_, rfl, before.loaded called.1 answers called.2⟩
  | unload => exact ⟨_, rfl, before.unload called⟩
  | unregistered =>
    refine ⟨_, rfl, before.ledger, ⟨?_, ?_⟩, fun never => absurd never (by simp),
      fun never => absurd rfl never, fun _ => called.2⟩
    · exact before.registered.numbers.trans (if_neg (by simp [called.1]))
    · intro serial there
      have inside := (before.registered.classes serial there).1
      exact absurd (called.1.symm.trans inside) (by decide)
  | callback c =>
    have stack := before.stack (by simp [called.1])
    have kept : Leads (nestedStep pci) StackInv s.core c := stack.kept c called.2
    obtain ⟨core, taken, after⟩ := kept
    refine ⟨{ s with core }, by rw [moduleStep, taken, Option.map_some], ?_⟩
    have live := (classLive_of_step c (nestedStep_core taken)).mpr (before.live called.1)
    exact ⟨before.ledger.kept c stack called.2 taken, before.registered.kept c stack called.2 taken,
      fun _ => live, fun _ => after, fun out => absurd (called.1.symm.trans out) (by decide)⟩

/-! ## Runs -/

/-- Over any number of insertions in which devices leave in the reverse order of their coming and
before `module_unload` destroys the class, whatever fails: every call has an outcome, what the
kernel holds for the module is of the devices attached, the class is there while the module is in,
and a module that is out has given all of it back. -/
theorem module_gives_back {calls : List (ModuleCall Dev)}
    (called : Each (moduleStep pci) ModuleCalls .boot calls) :
    Each (moduleStep pci) (Leads (moduleStep pci) Accounted) .boot calls := by
  refine each_of_guarded (fun s c t before allowed taken => ?_) (fun s c before allowed => ?_)
    LifeInv.boot called
  · exact (LifeInv.kept c before allowed).reached taken
  · have kept : Leads (moduleStep pci) LifeInv s c := before.kept c allowed
    obtain ⟨t, taken, after⟩ := kept
    exact ⟨t, taken, after.accounted⟩

/-- Two cards come and go; the next insertions fail, and in the last one a card that finds no memory
to map is turned back by `cdev_add`, and another is in when the module is unloaded. -/
def unloadedInUse : List (ModuleCall Nat) :=
  [.load sampleLoad, .callback (.attach 0 (sampleAnswers 0)), .callback (.attach 1 (sampleAnswers 1)),
    .callback (.detach 1), .callback (.detach 0), .unload, .unregistered,
    .load { sampleLoad with registerDriver := .error 11 },
    .load { sampleLoad with classCreate := .null }, .load sampleLoad,
    .callback (.attach 0 { sampleAnswers 2 with hold := ⟨.ok, 0⟩, cdevAdd := .error 11 }),
    .callback (.attach 0 (sampleAnswers 3)), .unload]

theorem module_gives_back_in_use :
    Each (moduleStep fun _ => sampleCard 8192) (Leads (moduleStep fun _ => sampleCard 8192) Accounted)
      .boot unloadedInUse :=
  module_gives_back (by decide +kernel)

end LddLearn.Pcidev02.Lifetime
