import LddLearn.Pcidev02.Bound
import LddLearn.Pcidev02.Mounting

/-!
# The device nodes of attached devices

`mount_chr_dev` does not look at `device_create`'s result and gives every node the
name `PCI_DEVICE_NAME`. A device whose attach returned 1 has a node of its own exactly
as long as each attach past `pci_enable_device` picks a context and, if it gets its cdev,
has the node created, and no detach runs for a device that was turned back and has no
context, or an attached device's.
-/

set_option autoImplicit false

namespace LddLearn.Pcidev02
open LddLearn.Linux LddLearn.Ssxa LddLearn.Library.Run

/-! ## Property and condition -/

section Statements
variable {Dev : Type}

/-- The cdev of the context and the node of its minor are there, and the device's. -/
structure OnFile (w : World Dev) (e : Dev) (slot : ContextPtr) : Prop where
  drvdata : w.kernel.drvdata e = some slot
  cdev : (w.kernel.cdevs slot).head? = some ⟨w.devNo slot, e⟩
  node : w.kernel.nodes (w.devNo slot) = some ⟨w.devClass, PCI_DEVICE_NAME, e⟩

def NodesHeld (r : RunState Dev) : Prop := ∀ e ∈ r.attached, ∃ slot, OnFile r.world e slot

/-- `mount_chr_dev` returns 0 with the cdev and a new node made, another value with neither. -/
def MountSound (w : World Dev) (owner : Dev) (slot : ContextPtr) (devNo : DevT)
    (cdevAdd deviceCreate : Answer) : Prop :=
  let (ret, after) := mountChrDev w owner slot devNo cdevAdd deviceCreate
  (ret = 0 → after.kernel.cdevs slot = ⟨devNo, owner⟩ :: w.kernel.cdevs slot ∧
    w.kernel.nodes (w.devNo slot) = none ∧
    after.kernel.nodes (w.devNo slot) = some ⟨w.devClass, PCI_DEVICE_NAME, owner⟩) ∧
  (ret ≠ 0 → after.kernel.cdevs = w.kernel.cdevs ∧ after.kernel.nodes = w.kernel.nodes)

/-- The call an attach makes to `mount_chr_dev`, if it makes it, is sound. -/
def MountsSoundly [DecidableEq Dev] (pci : Dev → PciDev) (r : RunState Dev) : Callback Dev → Prop
  | .attach d answers => ∀ slot : ContextPtr, r.world.devAttachCounter = slot.val →
      answers.enable = .ok → answers.hold.regions = .ok →
      let held := (r.world.enabled d).held pci answers.hold d slot
      MountSound held d slot (held.devNo slot) answers.cdevAdd answers.deviceCreate
  | .detach _ => True

/-- Detach hands `device_destroy` a class that exists. -/
def DestroysLive (r : RunState Dev) : Callback Dev → Prop
  | .attach _ _ => True
  | .detach _ => classLive r.world

/-- The call has an outcome: the mount it makes is sound, the class it uses is there, and
every device attached then has its cdev and its node. -/
def NodesSound [DecidableEq Dev] (pci : Dev → PciDev) (r : RunState Dev) (c : Callback Dev) : Prop :=
  MountsSoundly pci r c ∧ DestroysLive r c ∧ Leads (step pci) NodesHeld r c

/-- An attach past `pci_enable_device` picks a context and, if it gets its cdev, has its node
created. A detach finds the class live, and that of a device whose attach returned 0 finds a
context which no attached device has. -/
def CreatesNodes (r : RunState Dev) : Callback Dev → Prop
  | .attach _ answers => answers.enable = .ok →
      ∃ slot : ContextPtr, r.world.devAttachCounter = slot.val ∧ (answers.Mounts →
        r.world.kernel.CreatesNode r.world.devClass (r.world.devNo slot) answers.deviceCreate)
  | .detach d => classLive r.world ∧ (d ∉ r.attached →
      ∃ slot, r.world.kernel.drvdata d = some slot ∧
        ∀ e ∈ r.attached, r.world.kernel.drvdata e ≠ some slot)

/-- `device_create` refuses a name the class has already. -/
def RefusesSameName (r : RunState Dev) : Callback Dev → Prop
  | .attach _ answers => (∃ slot, (r.world.kernel.nodeIn r.world.devClass (r.world.devNo slot)).map
      (·.name) = some PCI_DEVICE_NAME) → answers.deviceCreate ≠ .ok
  | .detach _ => True

instance [DecidableEq Dev] (r : RunState Dev) : ∀ c : Callback Dev, Decidable (CreatesNodes r c)
  | .attach _ answers => inferInstanceAs (Decidable (answers.enable = .ok →
      ∃ slot : ContextPtr, r.world.devAttachCounter = slot.val ∧ (answers.Mounts →
        answers.deviceCreate = .ok ∧ r.world.kernel.liveClass r.world.devClass = true ∧
          r.world.kernel.nodes (r.world.devNo slot) = none)))
  | .detach d => inferInstanceAs (Decidable (classLive r.world ∧ (d ∉ r.attached →
      ∃ slot, r.world.kernel.drvdata d = some slot ∧
        ∀ e ∈ r.attached, r.world.kernel.drvdata e ≠ some slot)))

instance (r : RunState Dev) : ∀ c : Callback Dev, Decidable (RefusesSameName r c)
  | .attach _ answers => inferInstanceAs (Decidable ((∃ slot,
      (r.world.kernel.nodeIn r.world.devClass (r.world.devNo slot)).map (·.name) =
        some PCI_DEVICE_NAME) → answers.deviceCreate ≠ .ok))
  | .detach _ => isTrue trivial

structure NodesInv (r : RunState Dev) : Prop where
  counter_le : r.world.devAttachCounter ≤ MAX_DEVICE
  nodes : NodesHeld r
  bound : r.attached ⊆ r.bound
  minors : ∀ s t, (r.world.driverContexts s).minor = (r.world.driverContexts t).minor → s = t
  used : DrvdataUsed r.world

end Statements

variable {Dev : Type} [DecidableEq Dev] {pci : Dev → PciDev} {answers : AttachAnswers}
  {r r' : RunState Dev} {w after : World Dev} {d e : Dev} {slot used : ContextPtr}

/-! ## mount_chr_dev -/

omit [DecidableEq Dev] in
theorem mountSound_iff (w : World Dev) (owner : Dev) (slot : ContextPtr) (devNo : DevT)
    (cdevAdd deviceCreate : Answer) :
    MountSound w owner slot devNo cdevAdd deviceCreate ↔
      (cdevAdd = .ok → w.kernel.CreatesNode w.devClass (w.devNo slot) deviceCreate) := by
  unfold MountSound
  by_cases added : cdevAdd = .ok
  · subst added
    rw [mount_added]
    have asked : w.kernel.CreatesNode w.devClass (w.devNo slot) deviceCreate ↔
        (w.kernel.cdevAdd owner slot devNo .ok).2.CreatesNode w.devClass (w.devNo slot)
          deviceCreate :=
      ⟨fun creates => creates.of_same rfl rfl, fun creates => creates.of_same rfl rfl⟩
    have nodes : (w.mounted owner slot devNo deviceCreate).kernel.nodes =
        ((w.kernel.cdevAdd owner slot devNo .ok).2.deviceCreate owner w.devClass (w.devNo slot)
          PCI_DEVICE_NAME deviceCreate).nodes := rfl
    constructor
    · rintro ⟨made, _⟩ _
      obtain ⟨_, free, node⟩ := made rfl
      by_contra skips
      rw [nodes, Kernel.deviceCreate_skips (fun creates => skips (asked.mpr creates))] at node
      exact absurd (free.symm.trans node) (by simp)
    · intro creates
      refine ⟨fun _ => ⟨?_, (creates rfl).2.2, ?_⟩, fun failed => absurd rfl failed⟩
      · change Function.update w.kernel.cdevs slot _ slot = _
        rw [Function.update_self]
      · rw [nodes, Kernel.deviceCreate_creates (asked.mp (creates rfl))]
        exact Function.update_self ..
  · have failed : cdevAdd.code ≠ 0 := by simpa using added
    rw [mount_refused added]
    exact ⟨fun _ isAdded => absurd isAdded added, fun _ => ⟨fun zero => absurd zero failed, fun _ => ⟨rfl, rfl⟩⟩⟩

/-- Between the start of an attach and its mount the tables stay as they are. -/
theorem held_creates_iff (w : World Dev) (d : Dev) (slot : ContextPtr) :
    let held := (w.enabled d).held pci answers.hold d slot
    held.kernel.CreatesNode held.devClass (held.devNo slot) answers.deviceCreate ↔
      w.kernel.CreatesNode w.devClass (w.devNo slot) answers.deviceCreate := by
  obtain ⟨devNo, devClass, same⟩ := held_frame pci answers.hold w d slot
  intro held
  rw [devNo, devClass]
  exact ⟨fun creates => creates.of_same same.classes.symm same.nodes.symm,
    fun creates => creates.of_same same.classes same.nodes⟩

theorem mountsSoundly_attach_iff (picked : r.world.devAttachCounter = slot.val)
    (enabled : answers.enable = .ok) :
    MountsSoundly pci r (.attach d answers) ↔ (answers.Mounts →
      r.world.kernel.CreatesNode r.world.devClass (r.world.devNo slot) answers.deviceCreate) := by
  constructor
  · intro sound mounts
    have mounted := sound slot picked enabled mounts.1
    exact (held_creates_iff r.world d slot).mp ((mountSound_iff ..).mp mounted mounts.2)
  · intro creates other picked' _ granted
    obtain rfl : slot = other := Fin.ext (by omega)
    apply (mountSound_iff ..).mpr
    intro added
    exact (held_creates_iff r.world d slot).mpr (creates ⟨granted, added⟩)

/-! ## Attach -/

omit [DecidableEq Dev] in
/-- What an attached device has on file stays when the tables and its context do. -/
theorem OnFile.of_same (file : OnFile w e used) (same : w.kernel.SameChars after.kernel)
    (drvdata : after.kernel.drvdata e = w.kernel.drvdata e)
    (devNo : after.devNo used = w.devNo used) (devClass : after.devClass = w.devClass) :
    OnFile after e used where
  drvdata := drvdata.trans file.drvdata
  cdev := by rw [same.cdevs, devNo, file.cdev]
  node := by rw [same.nodes, devNo, devClass, file.node]

theorem OnFile.attach_self (effect : PastEnable slot d w 1 after)
    (mounted : Mounted answers slot d w after)
    (creates : w.kernel.CreatesNode w.devClass (w.devNo slot) answers.deviceCreate) :
    OnFile after d slot where
  drvdata := by rw [effect.drvdata, Function.update_self]
  cdev := by rw [mounted.cdevs, effect.devNo, Function.update_self, List.head?_cons]
  node := by
    rw [mounted.nodes, effect.devNo, effect.devClass, Kernel.deviceCreate_creates creates]
    exact Function.update_self ..

/-- The number of the new node was free, so no attached device has the slot. -/
theorem OnFile.attach_other (file : OnFile w e used) (different : e ≠ d)
    (effect : PastEnable slot d w 1 after) (mounted : Mounted answers slot d w after)
    (creates : w.kernel.CreatesNode w.devClass (w.devNo slot) answers.deviceCreate) :
    OnFile after e used := by
  have numbers : w.devNo used ≠ w.devNo slot := by
    intro same
    have free := creates.2.2
    rw [← same, file.node] at free
    exact absurd free (by simp)
  have apart : used ≠ slot := fun same => numbers (congrArg w.devNo same)
  refine ⟨?_, ?_, ?_⟩
  · rw [effect.drvdata, Function.update_of_ne different, file.drvdata]
  · rw [mounted.cdevs, effect.devNo, Function.update_of_ne apart, file.cdev]
  · rw [mounted.nodes, effect.devNo, effect.devClass, Kernel.deviceCreate_creates creates]
    exact (Function.update_of_ne numbers _ _).trans file.node

theorem NodesInv.turned_back (before : NodesInv r) (called : d ∉ r.bound)
    (picked : r.world.devAttachCounter = slot.val) (effect : PastEnable slot d r.world 0 after)
    (same : r.world.kernel.SameChars after.kernel) : NodesInv (r.afterAttach d 0 after) := by
  have absent : d ∉ r.attached := fun attached => called (before.bound attached)
  have attached := RunState.attached_turned_back absent after
  refine ⟨effect.counter_le picked, ?_, ?_, effect.minors before.minors,
    effect.drvdataUsed before.used⟩
  · intro e member
    rw [attached] at member
    have different : e ≠ d := fun here => absent (here ▸ member)
    obtain ⟨used, file⟩ := before.nodes e member
    have drvdata : after.kernel.drvdata e = r.world.kernel.drvdata e := by
      rw [effect.drvdata, Function.update_of_ne different]
    exact ⟨used, file.of_same same drvdata (effect.devNo used) effect.devClass⟩
  · rw [attached]
    exact before.bound.trans (Finset.subset_insert d r.bound)

theorem NodesInv.mounted (before : NodesInv r) (picked : r.world.devAttachCounter = slot.val)
    (effect : PastEnable slot d r.world 1 after) (mounted : Mounted answers slot d r.world after)
    (creates : r.world.kernel.CreatesNode r.world.devClass (r.world.devNo slot)
      answers.deviceCreate) : NodesInv (r.afterAttach d 1 after) := by
  refine ⟨effect.counter_le picked, ?_, ?_, effect.minors before.minors,
    effect.drvdataUsed before.used⟩
  · intro e member
    change e ∈ insert d r.attached at member
    by_cases same : e = d
    · subst same
      exact ⟨slot, .attach_self effect mounted creates⟩
    · obtain ⟨used, file⟩ := before.nodes e (Finset.mem_of_mem_insert_of_ne member same)
      exact ⟨used, file.attach_other same effect mounted creates⟩
  · exact Finset.insert_subset_insert d before.bound

theorem NodesInv.untouched (before : NodesInv r) (called : d ∉ r.bound) :
    NodesInv (r.afterAttach d 0 r.world) := by
  have absent : d ∉ r.attached := fun attached => called (before.bound attached)
  have attached := RunState.attached_turned_back absent r.world
  refine ⟨before.counter_le, ?_, ?_, before.minors, before.used⟩
  · intro e member
    exact before.nodes e (attached ▸ member)
  · rw [attached]
    exact before.bound.trans (Finset.subset_insert d r.bound)

/-- Under the condition an attach has an outcome and keeps the invariant. -/
theorem NodesInv.attach_kept (before : NodesInv r) (called : CoreCalls r (.attach d answers))
    (creates : CreatesNodes r (.attach d answers)) :
    Leads (step pci) NodesInv r (.attach d answers) := by
  by_cases enabled : answers.enable = .ok
  · obtain ⟨slot, picked, node⟩ := creates enabled
    by_cases mounts : answers.Mounts
    · obtain ⟨after, outcome, effect, mounted⟩ := attach_mounts pci d picked enabled mounts
      exact ⟨_, step_attach outcome, before.mounted picked effect mounted (node mounts)⟩
    · obtain ⟨after, outcome, effect, same, _⟩ := attach_turned_back pci d picked enabled mounts
      exact ⟨_, step_attach outcome, before.turned_back called picked effect same⟩
  · exact ⟨_, step_attach (attach_not_enabled pci d before.counter_le enabled),
      before.untouched called⟩

theorem attach_nodesSound_iff (before : NodesInv r) (called : CoreCalls r (.attach d answers)) :
    NodesSound pci r (.attach d answers) ↔ CreatesNodes r (.attach d answers) := by
  constructor
  · rintro ⟨mounts, _, leads⟩ enabled
    obtain ⟨r', taken, _⟩ := leads
    obtain ⟨ret, after, outcome, _⟩ := attach_of_step taken
    obtain ⟨slot, picked⟩ := slot_of_outcome before.counter_le enabled outcome
    exact ⟨slot, picked, (mountsSoundly_attach_iff picked enabled).mp mounts⟩
  · intro creates
    have kept : Leads (step pci) NodesInv r (.attach d answers) := before.attach_kept called creates
    obtain ⟨r', taken, after⟩ := kept
    refine ⟨?_, trivial, r', taken, after.nodes⟩
    intro slot picked enabled
    obtain ⟨other, picked', node⟩ := creates enabled
    obtain rfl : slot = other := Fin.ext (by omega)
    exact (mountsSoundly_attach_iff picked enabled).mpr node slot picked enabled

/-! ## Detach -/

theorem OnFile.detach_other (file : OnFile w e used)
    (minors : ∀ s t, (w.driverContexts s).minor = (w.driverContexts t).minor → s = t)
    (apart : used ≠ slot) (owner : Dev) : OnFile (w.detached pci owner slot) e used := by
  have unmounted := detached_unmounted pci w owner slot
  refine ⟨file.drvdata, ?_, ?_⟩
  · rw [unmounted.cdevs, detached_devNo, Function.update_of_ne apart]
    exact file.cdev
  · rw [unmounted.nodes, detached_devNo, detached_devClass,
      w.kernel.deviceDestroy_other w.devClass (devNo_ne minors apart)]
    exact file.node

/-- A detach through an attached device's context leaves that device without its node. -/
theorem OnFile.detach_same (file : OnFile w e slot) (owner : Dev) :
    ∀ any, ¬ OnFile (w.detached pci owner slot) e any := by
  intro any kept
  obtain rfl : slot = any := Option.some.inj (file.drvdata.symm.trans kept.drvdata)
  have found : w.kernel.nodeIn w.devClass (w.devNo slot) ≠ none := by
    simp [Kernel.nodeIn, file.node]
  have gone := kept.node
  rw [(detached_unmounted pci w owner slot).nodes, detached_devNo, detached_devClass] at gone
  exact absurd ((w.kernel.deviceDestroy_found found).symm.trans gone) (by simp)

omit [DecidableEq Dev] in
/-- Two attached devices never have one context: its node has one owner. -/
theorem NodesInv.apart (before : NodesInv r) (attached : d ∈ r.attached) (other : e ∈ r.attached)
    (different : e ≠ d) : r.world.kernel.drvdata e ≠ r.world.kernel.drvdata d := by
  intro same
  obtain ⟨slot, file⟩ := before.nodes d attached
  obtain ⟨used, file'⟩ := before.nodes e other
  obtain rfl : used = slot := Option.some.inj ((file'.drvdata.symm.trans same).trans file.drvdata)
  have owners := Option.some.inj (file'.node.symm.trans file.node)
  exact different (congrArg Node.owner owners)

/-- The context of a device that is detached is no other attached device's. -/
theorem NodesInv.leaving (before : NodesInv r) (creates : CreatesNodes r (.detach d)) :
    ∃ slot, r.world.kernel.drvdata d = some slot ∧
      ∀ e ∈ r.attached, e ≠ d → r.world.kernel.drvdata e ≠ some slot := by
  by_cases own : d ∈ r.attached
  · obtain ⟨slot, file⟩ := before.nodes d own
    refine ⟨slot, file.drvdata, fun e attached different same => ?_⟩
    exact before.apart own attached different (same.trans file.drvdata.symm)
  · obtain ⟨slot, chosen, free⟩ := creates.2 own
    exact ⟨slot, chosen, fun e attached _ => free e attached⟩

theorem NodesInv.detach_kept (before : NodesInv r) (creates : CreatesNodes r (.detach d)) :
    Leads (step pci) NodesInv r (.detach d) := by
  obtain ⟨slot, chosen, apart⟩ := before.leaving creates
  obtain ⟨owner, used⟩ := before.used d slot chosen
  refine ⟨_, step_detach (detach_effect chosen used), detached_counter_le before.counter_le, ?_,
    Finset.erase_subset_erase d before.bound, before.minors, before.used⟩
  intro e member
  obtain ⟨different, attached⟩ := Finset.mem_erase.mp member
  obtain ⟨other, file⟩ := before.nodes e attached
  have elsewhere : other ≠ slot := fun same => apart e attached different (same ▸ file.drvdata)
  exact ⟨other, file.detach_other before.minors elsewhere owner⟩

theorem detach_nodesSound_iff (before : NodesInv r) :
    NodesSound pci r (.detach d) ↔ CreatesNodes r (.detach d) := by
  constructor
  · rintro ⟨_, live, leads⟩
    refine ⟨live, fun absent => ?_⟩
    obtain ⟨r', taken, held⟩ := leads
    obtain ⟨slot, owner, chosen, _, rfl⟩ := detach_of_step taken
    refine ⟨slot, chosen, fun e attached same => ?_⟩
    obtain ⟨used, file⟩ := before.nodes e attached
    obtain rfl : used = slot := Option.some.inj (file.drvdata.symm.trans same)
    have different : e ≠ d := fun here => absent (here ▸ attached)
    obtain ⟨any, kept⟩ := held e (Finset.mem_erase.mpr ⟨different, attached⟩)
    exact file.detach_same owner any kept
  · intro creates
    have kept : Leads (step pci) NodesInv r (.detach d) := before.detach_kept creates
    obtain ⟨r', taken, after⟩ := kept
    exact ⟨trivial, creates.1, r', taken, after.nodes⟩

/-! ## Runs -/

omit [DecidableEq Dev] in
theorem NodesInv.start {load : LoadAnswers} {world : World Dev}
    (loaded : moduleLoad load World.boot = (0, world)) : NodesInv (RunState.start world) where
  counter_le := (Bounded.start loaded).counter_le
  nodes := fun e member => by simp [RunState.start] at member
  bound := Finset.empty_subset _
  minors := (SlotInv.start (load_success loaded).1 (load_success loaded).2.1).minors
  used := drvdataUsed_of_loaded loaded

theorem nodesSound_iff (c : Callback Dev) (before : NodesInv r) (called : CoreCalls r c) :
    NodesSound pci r c ↔ CreatesNodes r c := by
  cases c with
  | attach d answers => exact attach_nodesSound_iff before called
  | detach d => exact detach_nodesSound_iff before

theorem NodesInv.kept (c : Callback Dev) (before : NodesInv r) (called : CoreCalls r c)
    (creates : CreatesNodes r c) : Leads (step pci) NodesInv r c := by
  cases c with
  | attach d answers => exact before.attach_kept called creates
  | detach d => exact before.detach_kept creates

/-- Over the PCI core's runs: every callback has an outcome, every attached device has its cdev
and its node, and every mount makes both or neither, exactly when each attach past
`pci_enable_device` picks a context and gets its node with its cdev, and each detach finds the
class live and, for a device that was turned back, a context that no attached device has. -/
theorem nodes_sound_iff_creates_nodes {load : LoadAnswers} {world : World Dev}
    {callbacks : List (Callback Dev)} (loaded : moduleLoad load World.boot = (0, world))
    (called : Each (step pci) CoreCalls (RunState.start world) callbacks) :
    Each (step pci) (NodesSound pci) (RunState.start world) callbacks ↔
      Each (step pci) CreatesNodes (RunState.start world) callbacks := by
  have start : NodesInv (RunState.start world) := .start loaded
  refine each_iff_each (fun r c before allowed => ?_) ?_ start called
  · exact nodesSound_iff c before allowed
  · intro r c r' before allowed creates taken
    exact (before.kept c allowed creates).reached taken

theorem nodes_sound_iff_one_by_one :
    Each (step fun _ => sampleCard 8192) (NodesSound fun _ => sampleCard 8192)
        (RunState.start (moduleLoad sampleLoad World.boot).2) oneByOne ↔
      Each (step fun _ => sampleCard 8192) CreatesNodes
        (RunState.start (moduleLoad sampleLoad World.boot).2) oneByOne :=
  nodes_sound_iff_creates_nodes (show moduleLoad sampleLoad World.boot = (0, _) from rfl)
    (by decide +kernel)

/-- The second of two attached devices is refused its node, as its name is taken, and is
attached all the same. -/
theorem second_device_has_no_node :
    ¬ ∀ (world : World Nat) (callbacks : List (Callback Nat)),
      moduleLoad sampleLoad World.boot = (0, world) →
      Each (step fun _ => sampleCard 8192) CoreCalls (RunState.start world) callbacks →
      Each (step fun _ => sampleCard 8192) RefusesSameName (RunState.start world) callbacks →
      Each (step fun _ => sampleCard 8192) (NodesSound fun _ => sampleCard 8192)
        (RunState.start world) callbacks := by
  intro claim
  obtain ⟨_, later⟩ := claim _ [.attach 0 (sampleAnswers 0), .attach 1 (sampleAnswers 1)] rfl
    (by decide +kernel) (by decide +kernel)
  obtain ⟨r, reached, counter⟩ := Option.map_eq_some_iff.mp
    (show (step (fun _ => sampleCard 8192) (RunState.start (moduleLoad sampleLoad World.boot).2)
        (.attach 0 (sampleAnswers 0))).map (fun r => r.world.devAttachCounter) = some 1 by
      decide +kernel)
  obtain ⟨⟨mounts, _⟩, _⟩ := later r reached
  let slot : ContextPtr := ⟨1, by decide⟩
  have picked : r.world.devAttachCounter = slot.val := counter
  have created := (mountsSoundly_attach_iff picked rfl).mp mounts ⟨rfl, rfl⟩
  exact absurd created.1 (by decide)

/-! ## One name for all nodes -/

omit [DecidableEq Dev] in
/-- While a device is attached its node has the name, and no other can be made. -/
theorem NodesInv.alone (before : NodesInv r) (attached : e ∈ r.attached)
    (enabled : answers.enable = .ok) (names : RefusesSameName r (.attach d answers))
    (creates : CreatesNodes r (.attach d answers)) : ¬ answers.Mounts := by
  intro mounts
  obtain ⟨used, file⟩ := before.nodes e attached
  obtain ⟨_, _, node⟩ := creates enabled
  refine names ⟨used, ?_⟩ (node mounts).1
  simp [Kernel.nodeIn, file.node]

theorem NodesInv.card_attach (before : NodesInv r) (few : r.attached.card ≤ 1)
    (names : RefusesSameName r (.attach d answers)) (creates : CreatesNodes r (.attach d answers))
    (taken : step pci r (.attach d answers) = some r') : r'.attached.card ≤ 1 := by
  have fewer : (r.attached.erase d).card ≤ 1 := Finset.card_erase_le.trans few
  by_cases enabled : answers.enable = .ok
  · obtain ⟨slot, picked, _⟩ := creates enabled
    by_cases mounts : answers.Mounts
    · obtain ⟨after, outcome, _⟩ := attach_mounts pci d picked enabled mounts
      obtain rfl := Option.some.inj ((step_attach outcome).symm.trans taken)
      have empty : r.attached = ∅ := by
        by_contra occupied
        obtain ⟨e, attached⟩ := Finset.nonempty_iff_ne_empty.mpr occupied
        exact before.alone attached enabled names creates mounts
      change (insert d r.attached).card ≤ 1
      rw [empty]
      exact (Finset.card_singleton d).le
    · obtain ⟨after, outcome, _⟩ := attach_turned_back pci d picked enabled mounts
      obtain rfl := Option.some.inj ((step_attach outcome).symm.trans taken)
      exact fewer
  · have outcome := attach_not_enabled pci d before.counter_le enabled
    obtain rfl := Option.some.inj ((step_attach outcome).symm.trans taken)
    exact fewer

/-- The nodes are in order, and at most one device is attached. -/
structure OneAttached (r : RunState Dev) : Prop where
  nodes : NodesInv r
  few : r.attached.card ≤ 1

theorem OneAttached.kept (c : Callback Dev) (before : OneAttached r) (called : CoreCalls r c)
    (names : RefusesSameName r c) (sound : NodesSound pci r c) :
    Leads (step pci) OneAttached r c := by
  have creates := (nodesSound_iff c before.nodes called).mp sound
  obtain ⟨r', taken, after⟩ : Leads (step pci) NodesInv r c := before.nodes.kept c called creates
  refine ⟨r', taken, after, ?_⟩
  cases c with
  | attach d answers => exact before.nodes.card_attach before.few names creates taken
  | detach d =>
    obtain ⟨slot, owner, _, _, rfl⟩ := detach_of_step taken
    exact Finset.card_erase_le.trans before.few

/-- As every node has the same name, the runs in which all attached devices have theirs
never have two devices attached. -/
theorem attached_le_one_of_nodes_sound {load : LoadAnswers} {world : World Dev}
    {callbacks : List (Callback Dev)} (loaded : moduleLoad load World.boot = (0, world))
    (called : Each (step pci) CoreCalls (RunState.start world) callbacks)
    (names : Each (step pci) RefusesSameName (RunState.start world) callbacks)
    (sound : Each (step pci) (NodesSound pci) (RunState.start world) callbacks) :
    Each (step pci) (Leads (step pci) fun r => r.attached.card ≤ 1) (RunState.start world)
      callbacks := by
  have start : OneAttached (RunState.start world) := ⟨.start loaded, Nat.zero_le _⟩
  refine each_of_guarded (fun r c r' before allowed taken => ?_) (fun r c before allowed => ?_) start
    ((each_and _ _).mpr ⟨called, (each_and _ _).mpr ⟨names, sound⟩⟩)
  · exact (OneAttached.kept c before allowed.1 allowed.2.1 allowed.2.2).reached taken
  · obtain ⟨r', taken, after⟩ := OneAttached.kept c before allowed.1 allowed.2.1 allowed.2.2
    exact ⟨r', taken, after.few⟩

end LddLearn.Pcidev02
