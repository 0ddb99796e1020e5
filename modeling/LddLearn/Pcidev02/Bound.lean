import LddLearn.Linux.Chars
import LddLearn.Pcidev02.Slots

/-!
# Attach and detach under the PCI core's contract

The PCI core binds a device when its probe callback returns a value ≥ 0 and
later calls remove once. `pci_driver_attach` returns 0 or 1, so for the core it
never refuses a device. `BoundInv` is what the driver needs of every bound
device, and `NothingFails` describes the attaches that keep it: a free slot and
no failing kernel call, `ioremap` and `device_create` included.
-/

set_option autoImplicit false

namespace LddLearn.Pcidev02
open LddLearn.Linux LddLearn.Ssxa LddLearn.Library.Run

/-! ## Property and condition -/

section Statements
variable {Dev : Type}

/-- The counter is the number of bound devices. -/
def CountsBound (r : RunState Dev) : Prop :=
  r.world.devAttachCounter = r.bound.card ∧ 0 ≤ r.world.devAttachCounter

/-- The call recorded by the event took back a thing held for `d`. -/
def ReleasesOwn (d : Dev) : Event Dev ContextPtr → Prop
  | .deviceDestroy _ _ _ owner => owner = some d
  | .cdevDel _ owner => owner = some d
  | .iounmap _ owner => owner = some d
  | .pciReleaseRegions dev held => dev = d ∧ held = true
  | _ => True

/-- Detach has an outcome, and every releasing call it makes finds the thing it
releases, held for the device detached. -/
def DetachReleasesOwn [DecidableEq Dev] (pci : Dev → PciDev) (r : RunState Dev) :
    Callback Dev → Prop
  | .attach _ _ => True
  | .detach d => ∃ after, pciDriverDetach pci r.world d = .ok after ∧
      ∀ event ∈ Kernel.freshLog r.world.kernel after.kernel, ReleasesOwn d event

/-- The kernel grants everything an attach onto `slot` asks for: the mapping of the
device's memory BAR and the device node included. -/
def Grants (pci : Dev → PciDev) (w : World Dev) (d : Dev) (answers : AttachAnswers)
    (slot : ContextPtr) : Prop :=
  answers.enable = .ok ∧ answers.hold.regions = .ok ∧ answers.cdevAdd = .ok ∧
    w.kernel.FreshRange answers.hold.ioremap
      (memBarSize (pci d) (w.driverContexts slot).devResource.memSize) ∧
    w.kernel.CreatesNode w.devClass (w.devNo slot) answers.deviceCreate

instance (pci : Dev → PciDev) (w : World Dev) (d : Dev) (answers : AttachAnswers)
    (slot : ContextPtr) : Decidable (Grants pci w d answers slot) :=
  inferInstanceAs (Decidable (_ ∧ _ ∧ _ ∧ _ ∧ _ ∧ _ ∧ _))

/-- An attach finds the counter below `MAX_DEVICE` and the slot it designates in
the hands of no bound device, and no kernel call fails. -/
def NothingFails (pci : Dev → PciDev) (r : RunState Dev) : Callback Dev → Prop
  | .attach d answers => ∃ slot : ContextPtr, r.world.devAttachCounter = slot.val ∧
      (∀ e ∈ r.bound, r.world.kernel.drvdata e ≠ some slot) ∧ Grants pci r.world d answers slot
  | .detach _ => True

instance (pci : Dev → PciDev) (r : RunState Dev) :
    ∀ c : Callback Dev, Decidable (NothingFails pci r c)
  | .attach d answers => inferInstanceAs (Decidable (∃ slot : ContextPtr,
      r.world.devAttachCounter = slot.val ∧
      (∀ e ∈ r.bound, r.world.kernel.drvdata e ≠ some slot) ∧ Grants pci r.world d answers slot))
  | .detach _ => isTrue trivial

/-- What detach will release for `e` is there and is `e`'s. -/
structure HeldBy (pci : Dev → PciDev) (w : World Dev) (e : Dev) (slot : ContextPtr) : Prop where
  drvdata : w.kernel.drvdata e = some slot
  pciDev : (w.driverContexts slot).pciDev = some e
  node : (w.kernel.nodeIn w.devClass (w.devNo slot)).map (·.owner) = some e
  cdev : (w.kernel.cdevs slot).head?.map (·.owner) = some e
  mapping : (w.kernel.mappingAt (w.driverContexts slot).baseAddr.addr).map (·.owner) = some e
  regions : w.kernel.HoldsRegions (pci e) e

structure BoundInv (pci : Dev → PciDev) (r : RunState Dev) : Prop where
  counter : r.world.devAttachCounter = r.bound.card
  minors : ∀ s t, (r.world.driverContexts s).minor = (r.world.driverContexts t).minor → s = t
  held : ∀ e ∈ r.bound, ∃ slot, HeldBy pci r.world e slot

theorem BoundInv.countsBound {pci : Dev → PciDev} {r : RunState Dev}
    (invariant : BoundInv pci r) : CountsBound r := by
  have := invariant.counter
  exact ⟨this, by omega⟩

end Statements

variable {Dev : Type} [DecidableEq Dev] {pci : Dev → PciDev} {answers : AttachAnswers}
  {r : RunState Dev} {w after : World Dev} {d e : Dev} {slot used : ContextPtr} {m : Mapping Dev}

/-! ## Attach -/

omit [DecidableEq Dev] in
theorem devNo_ne (minors : ∀ s t, (w.driverContexts s).minor = (w.driverContexts t).minor → s = t)
    (apart : used ≠ slot) : w.devNo used ≠ w.devNo slot := by
  intro same
  exact apart (minors used slot (congrArg DevT.minor same))

/-- The device attached holds everything its slot stands for. -/
theorem HeldBy.attach_self (effect : PastEnable slot d w 1 after)
    (made : AttachedWith pci answers slot d w after m)
    (creates : w.kernel.CreatesNode w.devClass (w.devNo slot) answers.deviceCreate) :
    HeldBy pci after d slot where
  drvdata := by rw [effect.drvdata, Function.update_self]
  pciDev := effect.pciDev
  node := by
    rw [effect.devNo, effect.devClass, Kernel.nodeIn, made.nodes creates, Function.update_self]
    simp
  cdev := by simp [made.cdevs]
  mapping := by
    rw [made.base, Kernel.mappingAt, made.mappings]
    simp [made.owner]
  regions := by
    intro bar implemented
    rw [made.regions]
    simp only [Kernel.pciRequestRegions, Function.update_self, if_neg implemented]
    exact Option.some_ne_none _

/-- What another device holds is out of an attach's reach. -/
theorem HeldBy.attach_other (held : HeldBy pci w e used) (effect : PastEnable slot d w 1 after)
    (made : AttachedWith pci answers slot d w after m)
    (creates : w.kernel.CreatesNode w.devClass (w.devNo slot) answers.deviceCreate)
    (fresh : w.kernel.FreshRange m.addr m.size)
    (minors : ∀ s t, (w.driverContexts s).minor = (w.driverContexts t).minor → s = t)
    (different : e ≠ d) (apart : used ≠ slot) : HeldBy pci after e used where
  drvdata := by rw [effect.drvdata, Function.update_of_ne different, held.drvdata]
  pciDev := by rw [effect.others used apart, held.pciDev]
  node := by
    rw [effect.devNo, effect.devClass, Kernel.nodeIn, made.nodes creates,
      Function.update_of_ne (devNo_ne minors apart)]
    exact held.node
  cdev := by rw [made.cdevs, Function.update_of_ne apart, held.cdev]
  mapping := by
    obtain ⟨live, found, owner⟩ := Option.map_eq_some_iff.mp held.mapping
    obtain ⟨member, here⟩ := Kernel.addr_of_mappingAt found
    have elsewhere : m.addr ≠ (w.driverContexts used).baseAddr.addr :=
      fun same => fresh.addr_ne member (here.trans same.symm)
    rw [effect.others used apart, Kernel.mappingAt, made.mappings, List.find?_cons_of_neg (by simpa using elsewhere)]
    exact held.mapping
  regions := by
    intro bar implemented
    rw [made.regions]
    have reserved := held.regions bar implemented
    simpa [Kernel.pciRequestRegions, Function.update_of_ne different] using reserved

theorem BoundInv.attach_kept (before : BoundInv pci r) (called : CoreCalls r (.attach d answers))
    (granted : NothingFails pci r (.attach d answers)) :
    Leads (step pci) (BoundInv pci) r (.attach d answers) := by
  obtain ⟨slot, picked, free, enabled, regions, added, fresh, creates⟩ := granted
  obtain ⟨after, m, outcome, effect, made⟩ := attach_mapped picked enabled regions added fresh
  refine ⟨_, step_attach outcome, ?_, effect.minors before.minors, ?_⟩
  · have counted : (insert d r.bound).card = r.bound.card + 1 := Finset.card_insert_of_notMem called
    have := before.counter
    change after.devAttachCounter = ((insert d r.bound).card : Nat)
    rcases effect.counter with ⟨failed, _⟩ | ⟨_, next⟩ <;> omega
  · intro e bound
    change e ∈ insert d r.bound at bound
    rcases Finset.mem_insert.mp bound with same | earlier
    · subst same
      exact ⟨slot, .attach_self effect made creates⟩
    · obtain ⟨used, held⟩ := before.held e earlier
      have different : e ≠ d := fun same => called (same ▸ earlier)
      have apart : used ≠ slot := fun same => free e earlier (same ▸ held.drvdata)
      have fresh' : r.world.kernel.FreshRange m.addr m.size := by
        rw [made.addr, made.size]
        exact fresh
      exact ⟨used, held.attach_other effect made creates fresh' before.minors different apart⟩

/-! ## Detach -/

theorem detach_log (pci : Dev → PciDev) (w : World Dev) (d : Dev) (slot : ContextPtr) :
    Kernel.freshLog w.kernel (w.detached pci d slot).kernel =
      [.deviceDestroy w.devClass (w.kernel.liveClass w.devClass) (w.devNo slot)
          ((w.kernel.nodeIn w.devClass (w.devNo slot)).map (·.owner)),
        .cdevDel slot ((w.kernel.cdevs slot).head?.map (·.owner)),
        .iounmap (w.driverContexts slot).baseAddr.addr
          ((w.kernel.mappingAt (w.driverContexts slot).baseAddr.addr).map (·.owner)),
        .pciReleaseRegions d (decide (w.kernel.HoldsRegions (pci d) d))] := by
  have log : (w.detached pci d slot).kernel.log = w.kernel.log ++ [_] ++ [_] ++ [_] ++ [_] := rfl
  rw [Kernel.freshLog, log]
  simp only [List.append_assoc, List.singleton_append]
  exact List.drop_left

/-- Every call detach makes for a device finds what the device holds. -/
theorem HeldBy.releases (held : HeldBy pci w d slot) :
    ∀ event ∈ Kernel.freshLog w.kernel (w.detached pci d slot).kernel, ReleasesOwn d event := by
  rw [detach_log, held.node, held.cdev, held.mapping]
  have regions : decide (w.kernel.HoldsRegions (pci d) d) = true := decide_eq_true held.regions
  intro event member
  simp only [List.mem_cons, List.not_mem_nil, or_false] at member
  rcases member with rfl | rfl | rfl | rfl
  · rfl
  · rfl
  · rfl
  · exact ⟨rfl, regions⟩

/-- What another device holds is out of a detach's reach. -/
theorem HeldBy.detach_other (held : HeldBy pci w e used) (leaving : HeldBy pci w d slot)
    (minors : ∀ s t, (w.driverContexts s).minor = (w.driverContexts t).minor → s = t)
    (different : e ≠ d) : HeldBy pci (w.detached pci d slot) e used := by
  have apart : used ≠ slot := by
    intro same
    subst same
    exact different (Option.some.inj (held.pciDev.symm.trans leaving.pciDev))
  have elsewhere : (w.driverContexts used).baseAddr.addr ≠ (w.driverContexts slot).baseAddr.addr := by
    intro same
    have mapped := held.mapping
    rw [same, leaving.mapping] at mapped
    exact different (Option.some.inj mapped).symm
  refine ⟨held.drvdata, held.pciDev, ?_, ?_, ?_, ?_⟩
  · have kept : (w.detached pci d slot).kernel.nodes (w.devNo used) = w.kernel.nodes (w.devNo used) := by
      change (w.kernel.deviceDestroy w.devClass (w.devNo slot)).nodes (w.devNo used) = _
      exact w.kernel.deviceDestroy_other w.devClass (devNo_ne minors apart)
    rw [detached_devNo, detached_devClass, Kernel.nodeIn, kept]
    exact held.node
  · change ((Function.update w.kernel.cdevs slot _) used).head?.map _ = _
    rw [Function.update_of_ne apart]
    exact held.cdev
  · exact (congrArg (Option.map _) (Kernel.mappingAt_iounmap_other _ elsewhere)).trans held.mapping
  · intro bar implemented
    change Function.update w.kernel.regions d (fun _ => none) e bar ≠ none
    rw [Function.update_of_ne different]
    exact held.regions bar implemented

theorem BoundInv.detach_kept (before : BoundInv pci r) (called : CoreCalls r (.detach d)) :
    ∃ slot, HeldBy pci r.world d slot ∧
      step pci r (.detach d) = some (r.afterDetach d (r.world.detached pci d slot)) ∧
      BoundInv pci (r.afterDetach d (r.world.detached pci d slot)) := by
  obtain ⟨slot, leaving⟩ := before.held d called
  refine ⟨slot, leaving, step_detach (detach_effect leaving.drvdata leaving.pciDev), ?_,
    before.minors, ?_⟩
  · have counted : (r.bound.erase d).card + 1 = r.bound.card := Finset.card_erase_add_one called
    have := before.counter
    change r.world.devAttachCounter - 1 = ((r.bound.erase d).card : Nat)
    omega
  · intro e bound
    have different : e ≠ d := Finset.ne_of_mem_erase bound
    obtain ⟨used, held⟩ := before.held e (Finset.mem_of_mem_erase bound)
    exact ⟨used, held.detach_other leaving before.minors different⟩

/-! ## Runs -/

omit [DecidableEq Dev] in
theorem BoundInv.start {load : LoadAnswers} {world : World Dev}
    (loaded : moduleLoad load World.boot = (0, world)) : BoundInv pci (RunState.start world) where
  counter := (load_success loaded).1
  minors := (SlotInv.start (load_success loaded).1 (load_success loaded).2.1).minors
  held := fun e bound => by simp [RunState.start] at bound

theorem BoundInv.kept (c : Callback Dev) (before : BoundInv pci r) (called : CoreCalls r c)
    (granted : NothingFails pci r c) :
    Leads (step pci) (BoundInv pci) r c ∧ DetachReleasesOwn pci r c := by
  cases c with
  | attach d answers => exact ⟨before.attach_kept called granted, trivial⟩
  | detach d =>
    obtain ⟨slot, leaving, taken, invariant⟩ := before.detach_kept called
    exact ⟨⟨_, taken, invariant⟩, _, detach_effect leaving.drvdata leaving.pciDev, leaving.releases⟩

/-- Runs as the PCI core makes them, with no failing call and no shared slot in any
attach: in every state reached the counter is the number of bound devices, and
every detach releases only what its device holds. -/
theorem counts_bound_of_nothing_fails {load : LoadAnswers} {world : World Dev}
    {callbacks : List (Callback Dev)} (loaded : moduleLoad load World.boot = (0, world))
    (called : Each (step pci) CoreCalls (RunState.start world) callbacks)
    (granted : Each (step pci) (NothingFails pci) (RunState.start world) callbacks) :
    Each (step pci) (fun r c => Leads (step pci) CountsBound r c ∧ DetachReleasesOwn pci r c)
      (RunState.start world) callbacks := by
  have start : BoundInv pci (RunState.start world) := .start loaded
  refine each_of_guarded (fun r c after before both taken => ?_) (fun r c before both => ?_) start
    ((each_and _ callbacks).mpr ⟨called, granted⟩)
  · exact (BoundInv.kept c before both.1 both.2).1.reached taken
  · obtain ⟨⟨after, taken, invariant⟩, own⟩ := BoundInv.kept c before both.1 both.2
    exact ⟨⟨after, taken, invariant.countsBound⟩, own⟩

/-- Two cards, one after the other, in the same slot. -/
def oneByOne : List (Callback Nat) :=
  [.attach 0 (sampleAnswers 0), .detach 0, .attach 1 (sampleAnswers 0), .detach 1]

theorem counts_bound_one_by_one :
    Each (step fun _ => sampleCard 8192)
      (fun r c => Leads (step fun _ => sampleCard 8192) CountsBound r c ∧
        DetachReleasesOwn (fun _ => sampleCard 8192) r c)
      (RunState.start (moduleLoad sampleLoad World.boot).2) oneByOne :=
  counts_bound_of_nothing_fails (show moduleLoad sampleLoad World.boot = (0, _) from rfl)
    (by decide +kernel) (by decide +kernel)

/-- Attach answers a refused `pci_request_regions` with 0: the core binds the device,
the counter goes back, and the later remove takes it below zero. -/
theorem refused_attach_is_bound :
    ¬ ∀ (world : World Nat) (callbacks : List (Callback Nat)),
      moduleLoad sampleLoad World.boot = (0, world) →
      Each (step fun _ => sampleCard 8192) CoreCalls (RunState.start world) callbacks →
      Each (step fun _ => sampleCard 8192)
        (fun r c => Leads (step fun _ => sampleCard 8192) CountsBound r c ∧
          DetachReleasesOwn (fun _ => sampleCard 8192) r c)
        (RunState.start world) callbacks := by
  intro claim
  have refused := claim _
    [.attach 0 { sampleAnswers 0 with hold := ⟨.error 16, 0⟩ }, .detach 0] rfl (by decide +kernel)
  obtain ⟨⟨r, taken, counted, _⟩, _⟩ := refused.1
  obtain ⟨same, reached, facts⟩ := Option.map_eq_some_iff.mp
    (show (step (fun _ => sampleCard 8192) (RunState.start (moduleLoad sampleLoad World.boot).2)
        (.attach 0 { sampleAnswers 0 with hold := ⟨.error 16, 0⟩ })).map
        (fun r => (r.world.devAttachCounter, r.bound.card)) = some (0, 1) by decide +kernel)
  obtain rfl : r = same := Option.some.inj (taken.symm.trans reached)
  obtain ⟨counter, bound⟩ := Prod.mk.inj facts
  rw [counter, bound] at counted
  exact absurd counted (by decide)

end LddLearn.Pcidev02
