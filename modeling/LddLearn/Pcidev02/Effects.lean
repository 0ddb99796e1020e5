import LddLearn.Pcidev02.Driver

/-!
# What one attach and one detach do

An attach is turned away, not enabled, given an index outside the array, or
reaches a context; the first two change nothing. `Keeps` is the frame of the
helpers an attach runs on its context: everything but that context's resource
fields and the kernel's tables. `PastEnable` is what it adds up to, whichever
label the attach ends at: the device stays enabled even where the attach is
refused. Detach has one outcome once the device's drvdata is a context in use.
-/

set_option autoImplicit false

namespace LddLearn.Pcidev02
open LddLearn.Linux LddLearn.Ssxa

variable {Dev : Type} [DecidableEq Dev] {pci : Dev → PciDev} {answers : AttachAnswers}
  {w : World Dev} {d : Dev} {slot : ContextPtr}

/-! ## Attaches that reach no context -/

theorem attach_not_enabled (pci : Dev → PciDev) (d : Dev)
    (room : w.devAttachCounter ≤ MAX_DEVICE) (refused : answers.enable ≠ .ok) :
    pciDriverAttach pci answers w d = .ok (0, w) := by
  rw [pciDriverAttach, if_neg (Int.not_lt.mpr room)]
  cases h : answers.enable with
  | ok => exact absurd h refused
  | error errno =>
    have failed : (Answer.error errno).code ≠ 0 := by simp
    have restored : w.devAttachCounter + 1 - 1 = w.devAttachCounter := by omega
    simp [Kernel.pciEnableDevice, failed, faliClean1, restored]

/-- Turned away by the guard or by `pci_enable_device`. -/
theorem attach_stopped (pci : Dev → PciDev) (d : Dev)
    (stopped : ¬ (w.devAttachCounter ≤ MAX_DEVICE ∧ answers.enable = .ok)) :
    pciDriverAttach pci answers w d = .ok (0, w) := by
  by_cases room : w.devAttachCounter ≤ MAX_DEVICE
  · exact attach_not_enabled pci d room fun enabled => stopped ⟨room, enabled⟩
  · exact if_pos (Int.not_le.mp room)

/-- The world `pci_enable_device` leaves when it succeeds. -/
def World.enabled (w : World Dev) (d : Dev) : World Dev :=
  { w with
    devAttachCounter := w.devAttachCounter + 1
    kernel := (w.kernel.pciEnableDevice d .ok).2 }

theorem attach_enabled (room : w.devAttachCounter ≤ MAX_DEVICE) (granted : answers.enable = .ok) :
    pciDriverAttach pci answers w d =
      (contextAt w.devAttachCounter).bind (attachContext pci answers (w.enabled d) d) := by
  have index : w.devAttachCounter + 1 - 1 = w.devAttachCounter := by omega
  rw [pciDriverAttach, if_neg (Int.not_lt.mpr room), granted]
  simp only [Kernel.pciEnableDevice, ne_eq, not_true_eq_false, if_false, index]
  rfl

theorem attach_out_of_bounds (room : w.devAttachCounter ≤ MAX_DEVICE)
    (granted : answers.enable = .ok)
    (outside : ¬ (0 ≤ w.devAttachCounter ∧ w.devAttachCounter < MAX_DEVICE)) :
    pciDriverAttach pci answers w d = .error (.outOfBounds w.devAttachCounter) := by
  rw [attach_enabled room granted, contextAt_outside outside]
  rfl

theorem attach_past_enable (picked : w.devAttachCounter = slot.val)
    (granted : answers.enable = .ok) :
    pciDriverAttach pci answers w d = attachContext pci answers (w.enabled d) d slot := by
  have room : w.devAttachCounter ≤ MAX_DEVICE := by
    have := slot.isLt
    omega
  rw [attach_enabled room granted, picked, contextAt_val]
  rfl

omit [DecidableEq Dev] in
/-- The slot a counter inside the array picks. -/
theorem slot_of_counter (inside : 0 ≤ w.devAttachCounter ∧ w.devAttachCounter < MAX_DEVICE) :
    ∃ slot : ContextPtr, w.devAttachCounter = slot.val :=
  ⟨⟨w.devAttachCounter.toNat, by omega⟩, (Int.toNat_of_nonneg inside.1).symm⟩

/-- An attach with an outcome that got past `pci_enable_device` has picked a context. -/
theorem slot_of_outcome {result : Int × World Dev} (room : w.devAttachCounter ≤ MAX_DEVICE)
    (enabled : answers.enable = .ok) (outcome : pciDriverAttach pci answers w d = .ok result) :
    ∃ slot : ContextPtr, w.devAttachCounter = slot.val := by
  by_cases inside : 0 ≤ w.devAttachCounter ∧ w.devAttachCounter < MAX_DEVICE
  · exact slot_of_counter inside
  · have fault : pciDriverAttach pci answers w d = .error (.outOfBounds _) :=
      attach_out_of_bounds room enabled inside
    cases fault.symm.trans outcome

/-- An attach is turned away without a trace, faults, or reaches the context the counter picks. -/
theorem attach_reach (pci : Dev → PciDev) (answers : AttachAnswers) (w : World Dev) (d : Dev) :
    (pciDriverAttach pci answers w d = .ok (0, w) ∧
        ∀ slot : ContextPtr, w.devAttachCounter = slot.val → answers.enable ≠ .ok) ∨
      (∃ fault, pciDriverAttach pci answers w d = .error fault ∧
        ∀ slot : ContextPtr, w.devAttachCounter ≠ slot.val) ∨
      ∃ slot : ContextPtr, w.devAttachCounter = slot.val ∧ answers.enable = .ok := by
  by_cases passes : w.devAttachCounter ≤ MAX_DEVICE ∧ answers.enable = .ok
  · obtain ⟨room, granted⟩ := passes
    by_cases inside : 0 ≤ w.devAttachCounter ∧ w.devAttachCounter < MAX_DEVICE
    · obtain ⟨slot, picked⟩ := slot_of_counter inside
      exact Or.inr (Or.inr ⟨slot, picked, granted⟩)
    · refine Or.inr (Or.inl ⟨_, attach_out_of_bounds room granted inside, fun slot picked => ?_⟩)
      have := slot.isLt
      omega
  · refine Or.inl ⟨attach_stopped pci d passes, fun slot picked granted => ?_⟩
    have := slot.isLt
    exact passes ⟨by omega, granted⟩

/-! ## The frame of the helpers -/

/-- Only resource fields of the context and kernel tables other than drvdata and the
enable counts may differ. -/
structure Keeps (slot : ContextPtr) (w after : World Dev) : Prop where
  counter : after.devAttachCounter = w.devAttachCounter
  major : after.major = w.major
  devClass : after.devClass = w.devClass
  others : ∀ other, other ≠ slot → after.driverContexts other = w.driverContexts other
  pciDev : (after.driverContexts slot).pciDev = (w.driverContexts slot).pciDev
  minor : (after.driverContexts slot).minor = (w.driverContexts slot).minor
  drvdata : after.kernel.drvdata = w.kernel.drvdata
  enableCount : after.kernel.enableCount = w.kernel.enableCount

omit [DecidableEq Dev] in
theorem Keeps.trans {slot : ContextPtr} {a b c : World Dev} (first : Keeps slot a b)
    (second : Keeps slot b c) : Keeps slot a c where
  counter := second.counter.trans first.counter
  major := second.major.trans first.major
  devClass := second.devClass.trans first.devClass
  others := fun other different =>
    (second.others other different).trans (first.others other different)
  pciDev := second.pciDev.trans first.pciDev
  minor := second.minor.trans first.minor
  drvdata := second.drvdata.trans first.drvdata
  enableCount := second.enableCount.trans first.enableCount

omit [DecidableEq Dev] in
/-- A context update that leaves owner and minor, with new kernel tables. -/
theorem keeps_of_update (w : World Dev) (slot : ContextPtr) (context : DriverContext Dev)
    (kernel : DriverKernel Dev) (pciDev : context.pciDev = (w.driverContexts slot).pciDev)
    (minor : context.minor = (w.driverContexts slot).minor)
    (drvdata : kernel.drvdata = w.kernel.drvdata)
    (enableCount : kernel.enableCount = w.kernel.enableCount) :
    Keeps slot w { w.setContext slot context with kernel } where
  counter := rfl
  major := rfl
  devClass := rfl
  others := fun _ different => w.setContext_other context different
  pciDev := by simp [World.setContext, pciDev]
  minor := by simp [World.setContext, minor]
  drvdata := drvdata
  enableCount := enableCount

theorem holdPciResources_keeps (pci : Dev → PciDev) (answers : HoldAnswers) (w : World Dev)
    (d : Dev) (slot : ContextPtr) : Keeps slot w (holdPciResources pci answers w d slot).2 := by
  unfold holdPciResources
  by_cases granted : answers.regions = .ok
  · by_cases fresh : w.kernel.FreshRange answers.ioremap
        (scanBars (pci d) (w.driverContexts slot).devResource).memSize
    · rw [hold_mapped granted fresh]
      exact keeps_of_update w slot _ _ rfl rfl rfl rfl
    · rw [hold_unmapped granted fresh]
      exact keeps_of_update w slot _ _ rfl rfl rfl rfl
  · rw [hold_refused granted]
    exact keeps_of_update w slot _ _ rfl rfl rfl rfl

omit [DecidableEq Dev] in
theorem mount_refused {owner : Dev} {devNo : DevT} {cdevAdd deviceCreate : Answer}
    (refused : cdevAdd ≠ .ok) :
    mountChrDev w owner slot devNo cdevAdd deviceCreate = (cdevAdd.code, w) := by
  cases cdevAdd with
  | ok => exact absurd rfl refused
  | error errno =>
    have failed : (Answer.error errno).code ≠ 0 := by simp
    simp [mountChrDev, Kernel.cdevAdd, failed]

/-- The world after the workers are set and the node is asked for. -/
def World.mounted (w : World Dev) (owner : Dev) (slot : ContextPtr) (devNo : DevT)
    (deviceCreate : Answer) : World Dev :=
  let context := w.driverContexts slot
  { w.setContext slot { context with workers := initWorkers context.wBuffer context.sBuffer } with
    kernel := (w.kernel.cdevAdd owner slot devNo .ok).2.deviceCreate owner w.devClass
      (w.devNo slot) PCI_DEVICE_NAME deviceCreate }

omit [DecidableEq Dev] in
theorem mount_added {owner : Dev} {devNo : DevT} {deviceCreate : Answer} :
    mountChrDev w owner slot devNo .ok deviceCreate =
      (0, w.mounted owner slot devNo deviceCreate) := by
  have minor : (w.setContext slot { w.driverContexts slot with
      workers := initWorkers (w.driverContexts slot).wBuffer
        (w.driverContexts slot).sBuffer }).devNo slot = w.devNo slot := by
    simp [World.devNo, World.setContext]
  simp only [World.mounted, ← minor]
  rfl

omit [DecidableEq Dev] in
theorem mountChrDev_keeps (w : World Dev) (owner : Dev) (slot : ContextPtr) (devNo : DevT)
    (cdevAdd deviceCreate : Answer) :
    Keeps slot w (mountChrDev w owner slot devNo cdevAdd deviceCreate).2 := by
  by_cases granted : cdevAdd = .ok
  · rw [granted, mount_added]
    exact keeps_of_update w slot _ _ rfl rfl rfl rfl
  · rw [mount_refused granted]
    exact ⟨rfl, rfl, rfl, fun _ _ => rfl, rfl, rfl, rfl, rfl⟩

/-- The world `free_pci_resources` leaves for a context in use by `d`. -/
def World.freed (pci : Dev → PciDev) (w : World Dev) (d : Dev) (slot : ContextPtr) : World Dev :=
  { w with
    kernel := (w.kernel.iounmap (w.driverContexts slot).baseAddr.addr).pciReleaseRegions
      (pci d) d }

theorem free_used (used : (w.driverContexts slot).pciDev = some d) :
    freePciResources pci w slot = .ok (w.freed pci d slot) := by
  simp only [freePciResources, Ssxa.freePciResources, used, Except.map, World.freed]

/-! ## Attaches that reach a context -/

/-- The world once the context is chosen. -/
def World.opened (w : World Dev) (d : Dev) (slot : ContextPtr) : World Dev :=
  { w.setContext slot { w.driverContexts slot with pciDev := some d } with
    kernel := w.kernel.pciSetDrvdata d slot }

/-- The world `hold_pci_resources` leaves in an attach. -/
def World.held (pci : Dev → PciDev) (answers : HoldAnswers) (w : World Dev) (d : Dev)
    (slot : ContextPtr) : World Dev :=
  (holdPciResources pci answers (w.opened d slot) d slot).2

omit [DecidableEq Dev] in
theorem setContext_self (w : World Dev) (slot : ContextPtr) :
    w.setContext slot (w.driverContexts slot) = w := by
  simp [World.setContext]

theorem holdPciResources_code (holdAnswers : HoldAnswers) :
    (holdPciResources pci holdAnswers w d slot).1 = holdAnswers.regions.code := by
  unfold holdPciResources
  exact hold_code

theorem holdPciResources_refused {holdAnswers : HoldAnswers}
    (refused : holdAnswers.regions ≠ .ok) :
    (holdPciResources pci holdAnswers w d slot).2 = w := by
  unfold holdPciResources
  rw [hold_refused refused]
  exact congrArg (fun same : World Dev => { same with kernel := w.kernel }) (setContext_self w slot)

theorem attachContext_refused (refused : answers.hold.regions ≠ .ok) :
    attachContext pci answers w d slot = .ok (0, faliClean2 (w.opened d slot)) := by
  have code : (holdPciResources pci answers.hold (w.opened d slot) d slot).1 ≠ 0 := by
    rw [holdPciResources_code]
    simpa using refused
  have world : (holdPciResources pci answers.hold (w.opened d slot) d slot).2 = w.opened d slot :=
    holdPciResources_refused refused
  rw [← world]
  exact if_pos code

/-- Past a granted request attach goes on to mount, mapping or not. -/
theorem attachContext_granted (granted : answers.hold.regions = .ok) :
    attachContext pci answers w d slot =
      let held := w.held pci answers.hold d slot
      let mounted := mountChrDev held d slot (held.devNo slot) answers.cdevAdd
        answers.deviceCreate
      if mounted.1 ≠ 0 then (faliClean3 pci mounted.2 slot).map (0, ·)
      else .ok (1, mounted.2) := by
  have code : ¬ (holdPciResources pci answers.hold (w.opened d slot) d slot).1 ≠ 0 := by
    rw [holdPciResources_code, granted]
    simp
  rw [attachContext]
  change (if (holdPciResources pci answers.hold (w.opened d slot) d slot).1 ≠ 0 then _ else _) = _
  rw [if_neg code]
  rfl

theorem held_keeps (pci : Dev → PciDev) (holdAnswers : HoldAnswers) (w : World Dev) (d : Dev)
    (slot : ContextPtr) : Keeps slot (w.opened d slot) (w.held pci holdAnswers d slot) :=
  holdPciResources_keeps pci holdAnswers (w.opened d slot) d slot

theorem held_pciDev (pci : Dev → PciDev) (holdAnswers : HoldAnswers) (w : World Dev) (d : Dev)
    (slot : ContextPtr) :
    ((w.held pci holdAnswers d slot).driverContexts slot).pciDev = some d := by
  rw [(held_keeps pci holdAnswers w d slot).pciDev]
  simp [World.opened, World.setContext]

theorem attachContext_unmounted (granted : answers.hold.regions = .ok)
    (refused : answers.cdevAdd ≠ .ok) :
    attachContext pci answers w d slot =
      .ok (0, faliClean2 ((w.held pci answers.hold d slot).freed pci d slot)) := by
  have code : answers.cdevAdd.code ≠ 0 := by simpa using refused
  rw [attachContext_granted granted]
  simp only [mount_refused refused, if_pos code, faliClean3,
    free_used (held_pciDev pci answers.hold w d slot), Except.map]

theorem attachContext_mounted (granted : answers.hold.regions = .ok)
    (added : answers.cdevAdd = .ok) :
    attachContext pci answers w d slot =
      .ok (1, (w.held pci answers.hold d slot).mounted d slot
        ((w.held pci answers.hold d slot).devNo slot) answers.deviceCreate) := by
  rw [attachContext_granted granted, added]
  simp only [mount_added, ne_eq, not_true_eq_false, if_false]

/-- What every attach that reaches a context has done in the end. -/
structure PastEnable (slot : ContextPtr) (d : Dev) (w : World Dev) (ret : Int)
    (after : World Dev) : Prop where
  counter : ret = 0 ∧ after.devAttachCounter = w.devAttachCounter ∨
    ret = 1 ∧ after.devAttachCounter = w.devAttachCounter + 1
  major : after.major = w.major
  devClass : after.devClass = w.devClass
  others : ∀ other, other ≠ slot → after.driverContexts other = w.driverContexts other
  pciDev : (after.driverContexts slot).pciDev = some d
  minor : (after.driverContexts slot).minor = (w.driverContexts slot).minor
  drvdata : after.kernel.drvdata = Function.update w.kernel.drvdata d (some slot)
  enableCount : after.kernel.enableCount =
    Function.update w.kernel.enableCount d (w.kernel.enableCount d + 1)

theorem PastEnable.counter_le {ret : Int} {after : World Dev} (effect : PastEnable slot d w ret after)
    (picked : w.devAttachCounter = slot.val) : after.devAttachCounter ≤ MAX_DEVICE := by
  have := slot.isLt
  have := effect.counter
  omega

omit [DecidableEq Dev] in
theorem freed_keeps [DecidableEq Dev] (pci : Dev → PciDev) (w : World Dev) (d : Dev)
    (slot : ContextPtr) : Keeps slot w (w.freed pci d slot) :=
  ⟨rfl, rfl, rfl, fun _ _ => rfl, rfl, rfl, rfl, rfl⟩

theorem pastEnable_of_keeps {after last : World Dev} {ret : Int}
    (keeps : Keeps slot ((w.enabled d).opened d slot) after)
    (same : last = { after with devAttachCounter := last.devAttachCounter })
    (counter : ret = 0 ∧ last.devAttachCounter = w.devAttachCounter ∨
      ret = 1 ∧ last.devAttachCounter = w.devAttachCounter + 1) :
    PastEnable slot d w ret last := by
  rw [same]
  refine ⟨counter, keeps.major, keeps.devClass, ?_, ?_, ?_, ?_, ?_⟩
  · intro other different
    rw [keeps.others other different]
    exact World.setContext_other _ _ different
  · rw [keeps.pciDev]
    simp [World.opened, World.setContext]
  · rw [keeps.minor]
    simp [World.opened, World.setContext, World.enabled]
  · rw [keeps.drvdata]
    rfl
  · rw [keeps.enableCount]
    rfl

theorem attach_effect (pci : Dev → PciDev) (d : Dev) (picked : w.devAttachCounter = slot.val)
    (enabled : answers.enable = .ok) :
    ∃ ret after, pciDriverAttach pci answers w d = .ok (ret, after) ∧
      PastEnable slot d w ret after := by
  rw [attach_past_enable picked enabled]
  have held := held_keeps pci answers.hold (w.enabled d) d slot
  have restored : w.devAttachCounter + 1 - 1 = w.devAttachCounter := by omega
  by_cases granted : answers.hold.regions = .ok
  · by_cases added : answers.cdevAdd = .ok
    · refine ⟨_, _, attachContext_mounted granted added, ?_⟩
      have mounted := mountChrDev_keeps ((w.enabled d).held pci answers.hold d slot) d slot
        (((w.enabled d).held pci answers.hold d slot).devNo slot) .ok answers.deviceCreate
      rw [mount_added] at mounted
      exact pastEnable_of_keeps (held.trans mounted) rfl (Or.inr ⟨rfl, held.counter⟩)
    · refine ⟨_, _, attachContext_unmounted granted added, ?_⟩
      refine pastEnable_of_keeps (held.trans (freed_keeps pci _ d slot)) rfl (Or.inl ⟨rfl, ?_⟩)
      change ((w.enabled d).held pci answers.hold d slot).devAttachCounter - 1 = _
      rw [held.counter]
      exact restored
  · refine ⟨_, _, attachContext_refused granted, ?_⟩
    exact pastEnable_of_keeps ⟨rfl, rfl, rfl, fun _ _ => rfl, rfl, rfl, rfl, rfl⟩ rfl
      (Or.inl ⟨rfl, restored⟩)

theorem pastEnable_of_outcome {ret : Int} {after : World Dev} (picked : w.devAttachCounter = slot.val)
    (enabled : answers.enable = .ok)
    (outcome : pciDriverAttach pci answers w d = .ok (ret, after)) :
    PastEnable slot d w ret after := by
  obtain ⟨_, _, reached, effect⟩ := attach_effect pci d picked enabled
  obtain ⟨rfl, rfl⟩ := Prod.mk.inj (Except.ok.inj (reached.symm.trans outcome))
  exact effect

/-! ## Attaches that get their mapping -/

/-- The context `hold_pci_resources` is called with. -/
def World.pickedContext (w : World Dev) (d : Dev) (slot : ContextPtr) : DriverContext Dev :=
  { w.driverContexts slot with pciDev := some d }

theorem held_mapped {holdAnswers : HoldAnswers} (granted : holdAnswers.regions = .ok)
    (fresh : w.kernel.FreshRange holdAnswers.ioremap
      (scanBars (pci d) (w.pickedContext d slot).devResource).memSize) :
    let m := heldMapping (pci d) d holdAnswers (w.pickedContext d slot) w.kernel fresh
    w.held pci holdAnswers d slot =
      { (w.opened d slot).setContext slot
          (mappedContext (pci d) (w.pickedContext d slot) holdAnswers.ioremap) with
        kernel :=
          { ((w.opened d slot).kernel.pciRequestRegions (pci d) d PCI_DEVICE_NAME .ok).2 with
            mappings := m :: w.kernel.mappings
            nextSerial := w.kernel.nextSerial + 1
            log := w.kernel.log ++ [.ioremap m] ++
              [.memsetIo holdAnswers.ioremap
                (scanBars (pci d) (w.pickedContext d slot).devResource).memSize] } } := by
  have opened : (w.opened d slot).driverContexts slot = w.pickedContext d slot := by
    simp [World.opened, World.setContext, World.pickedContext]
  have fresh' : (w.opened d slot).kernel.FreshRange holdAnswers.ioremap
      (scanBars (pci d) (w.pickedContext d slot).devResource).memSize := fresh
  unfold World.held holdPciResources
  rw [opened, hold_mapped granted fresh']
  rfl

/-- What `hold_pci_resources` has done once `ioremap` has made the mapping `m`. -/
structure HeldWith (pci : Dev → PciDev) (holdAnswers : HoldAnswers) (slot : ContextPtr) (d : Dev)
    (w held : World Dev) (m : Mapping Dev) : Prop where
  owner : m.owner = d
  addr : m.addr = holdAnswers.ioremap
  size : m.size = memBarSize (pci d) (w.driverContexts slot).devResource.memSize
  base : (held.driverContexts slot).baseAddr.addr = m.addr
  wBuffer : (held.driverContexts slot).wBuffer.addr = m.addr
  sBuffer : (held.driverContexts slot).sBuffer.addr = m.addr + 4096
  devNo : held.devNo slot = w.devNo slot
  devClass : held.devClass = w.devClass
  mappings : held.kernel.mappings = m :: w.kernel.mappings
  cdevs : held.kernel.cdevs = w.kernel.cdevs
  nodes : held.kernel.nodes = w.kernel.nodes
  classes : held.kernel.classes = w.kernel.classes
  regions : held.kernel.regions =
    (w.kernel.pciRequestRegions (pci d) d PCI_DEVICE_NAME .ok).2.regions
  log : ∃ cleared, held.kernel.log = w.kernel.log ++ [.ioremap m] ++ [cleared]

omit [DecidableEq Dev] in
theorem Keeps.devNo {after : World Dev} (keeps : Keeps slot w after) :
    after.devNo slot = w.devNo slot := by
  rw [World.devNo, World.devNo, keeps.major, keeps.minor]

theorem opened_devNo (w : World Dev) (d : Dev) (slot : ContextPtr) :
    (w.opened d slot).devNo slot = w.devNo slot := by
  simp [World.devNo, World.opened, World.setContext]

theorem held_with {holdAnswers : HoldAnswers} (granted : holdAnswers.regions = .ok)
    (fresh : w.kernel.FreshRange holdAnswers.ioremap
      (memBarSize (pci d) (w.driverContexts slot).devResource.memSize)) :
    ∃ m, HeldWith pci holdAnswers slot d w (w.held pci holdAnswers d slot) m := by
  have keeps := held_keeps pci holdAnswers w d slot
  have devNo := keeps.devNo.trans (opened_devNo w d slot)
  have devClass := keeps.devClass
  have size := scanBars_memSize (pci d) (w.pickedContext d slot).devResource
  have fresh' : w.kernel.FreshRange holdAnswers.ioremap
      (scanBars (pci d) (w.pickedContext d slot).devResource).memSize := size ▸ fresh
  rw [held_mapped granted fresh'] at devNo devClass ⊢
  refine ⟨heldMapping (pci d) d holdAnswers (w.pickedContext d slot) w.kernel fresh', rfl, rfl, size,
    ?_, ?_, ?_, devNo, devClass, rfl, rfl, rfl, rfl, rfl, _, rfl⟩ <;>
    simp [World.setContext, mappedContext, remappedContext, heldMapping]

/-- Without a mapping `hold_pci_resources` leaves the kernel's mappings alone and NULL in
the context, and still reports success. -/
theorem held_without {holdAnswers : HoldAnswers} (granted : holdAnswers.regions = .ok)
    (refused : ¬ w.kernel.FreshRange holdAnswers.ioremap
      (memBarSize (pci d) (w.driverContexts slot).devResource.memSize)) :
    (w.held pci holdAnswers d slot).kernel.mappings = w.kernel.mappings ∧
      ((w.held pci holdAnswers d slot).driverContexts slot).baseAddr.addr = 0 := by
  have opened : (w.opened d slot).driverContexts slot = w.pickedContext d slot := by
    simp [World.opened, World.setContext, World.pickedContext]
  have size := scanBars_memSize (pci d) (w.pickedContext d slot).devResource
  have refused' : ¬ (w.opened d slot).kernel.FreshRange holdAnswers.ioremap
      (scanBars (pci d) (w.pickedContext d slot).devResource).memSize := size ▸ refused
  unfold World.held holdPciResources
  rw [opened, hold_unmapped granted refused']
  refine ⟨rfl, ?_⟩
  simp [World.setContext, remappedContext]

/-- An attach that reports failure has no mapping of its own left. -/
theorem attach_failed_mappings (picked : w.devAttachCounter = slot.val)
    (enabled : answers.enable = .ok)
    (refused : answers.hold.regions ≠ .ok ∨ answers.cdevAdd ≠ .ok) :
    ∃ after, pciDriverAttach pci answers w d = .ok (0, after) ∧ PastEnable slot d w 0 after ∧
      after.kernel.mappings = w.kernel.mappings := by
  have reached : pciDriverAttach pci answers w d = _ := attach_past_enable picked enabled
  by_cases granted : answers.hold.regions = .ok
  · have notAdded : answers.cdevAdd ≠ .ok := refused.resolve_left (not_not_intro granted)
    have outcome := reached.trans (attachContext_unmounted granted notAdded)
    refine ⟨_, outcome, pastEnable_of_outcome picked enabled outcome, ?_⟩
    change (((w.enabled d).held pci answers.hold d slot).kernel.iounmap _).mappings = _
    unfold Kernel.iounmap
    by_cases fresh : w.kernel.FreshRange answers.hold.ioremap
        (memBarSize (pci d) (w.driverContexts slot).devResource.memSize)
    · obtain ⟨m, held⟩ : ∃ m, HeldWith pci answers.hold slot d (w.enabled d)
          ((w.enabled d).held pci answers.hold d slot) m := held_with granted fresh
      rw [held.mappings, held.base]
      exact (held.addr ▸ fresh).unmap
    · obtain ⟨mappings, base⟩ := held_without (w := w.enabled d) granted fresh
      rw [mappings, base]
      exact List.filter_eq_self.mpr fun other _ => decide_eq_true other.valid.1
  · have outcome := reached.trans (attachContext_refused granted)
    exact ⟨_, outcome, pastEnable_of_outcome picked enabled outcome, rfl⟩

/-- What an attach has done once `ioremap` and `cdev_add` have let it through. -/
structure AttachedWith (pci : Dev → PciDev) (answers : AttachAnswers) (slot : ContextPtr) (d : Dev)
    (w after : World Dev) (m : Mapping Dev) : Prop where
  owner : m.owner = d
  addr : m.addr = answers.hold.ioremap
  size : m.size = memBarSize (pci d) (w.driverContexts slot).devResource.memSize
  base : (after.driverContexts slot).baseAddr.addr = m.addr
  workers : ∃ wBuffer sBuffer : DriverBuffer,
    (after.driverContexts slot).workers = initWorkers wBuffer sBuffer ∧
    wBuffer.addr = m.addr ∧ sBuffer.addr = m.addr + 4096
  mappings : after.kernel.mappings = m :: w.kernel.mappings
  cdevs : after.kernel.cdevs =
    Function.update w.kernel.cdevs slot (⟨w.devNo slot, d⟩ :: w.kernel.cdevs slot)
  nodes : w.kernel.CreatesNode w.devClass (w.devNo slot) answers.deviceCreate →
    after.kernel.nodes = Function.update w.kernel.nodes (w.devNo slot)
      (some { cls := w.devClass, name := PCI_DEVICE_NAME, owner := d })
  regions : after.kernel.regions =
    (w.kernel.pciRequestRegions (pci d) d PCI_DEVICE_NAME .ok).2.regions
  fresh : Kernel.freshMapping w.kernel after.kernel = some m

theorem attach_mapped (picked : w.devAttachCounter = slot.val) (enabled : answers.enable = .ok)
    (granted : answers.hold.regions = .ok) (added : answers.cdevAdd = .ok)
    (fresh : w.kernel.FreshRange answers.hold.ioremap
      (memBarSize (pci d) (w.driverContexts slot).devResource.memSize)) :
    ∃ after m, pciDriverAttach pci answers w d = .ok (1, after) ∧
      PastEnable slot d w 1 after ∧ AttachedWith pci answers slot d w after m := by
  obtain ⟨m, held⟩ : ∃ m, HeldWith pci answers.hold slot d (w.enabled d)
      ((w.enabled d).held pci answers.hold d slot) m := held_with granted fresh
  have outcome : pciDriverAttach pci answers w d = _ :=
    (attach_past_enable picked enabled).trans (attachContext_mounted granted added)
  have effect := pastEnable_of_outcome picked enabled outcome
  generalize (w.enabled d).held pci answers.hold d slot = middle at held outcome effect
  have devNo : middle.devNo slot = w.devNo slot := held.devNo
  have devClass : middle.devClass = w.devClass := held.devClass
  refine ⟨_, m, outcome, effect, held.owner, held.addr, held.size, ?_,
    ⟨_, _, ?_, held.wBuffer, held.sBuffer⟩, held.mappings, ?_, ?_, held.regions, ?_⟩
  · simp [World.mounted, World.setContext, held.base]
  · simp [World.mounted, World.setContext]
  · change Function.update middle.kernel.cdevs slot _ = _
    rw [devNo, held.cdevs]
    rfl
  · intro creates
    have kept : (middle.kernel.cdevAdd d slot (middle.devNo slot) .ok).2.CreatesNode
        middle.devClass (middle.devNo slot) answers.deviceCreate := by
      rw [devNo, devClass]
      exact creates.of_same held.classes held.nodes
    change (Kernel.deviceCreate _ _ _ _ _ _).nodes = _
    rw [Kernel.deviceCreate_creates kept, devNo, devClass]
    exact congrArg (Function.update · _ _) held.nodes
  · have log : (middle.mounted d slot (middle.devNo slot) answers.deviceCreate).kernel.log =
        middle.kernel.log ++ [_] ++ [_] := rfl
    obtain ⟨cleared, heldLog⟩ := held.log
    rw [Kernel.freshMapping, Kernel.freshLog, log, heldLog]
    simp only [List.append_assoc, List.singleton_append]
    exact congrArg (List.findSome? _) List.drop_left

/-! ## Detach -/

/-- The world a detach leaves for a device whose context is in use by `e`. -/
def World.detached (pci : Dev → PciDev) (w : World Dev) (e : Dev) (slot : ContextPtr) :
    World Dev :=
  { (unmountChrDev w slot).freed pci e slot with devAttachCounter := w.devAttachCounter - 1 }

section
variable (pci : Dev → PciDev) (w : World Dev) (e : Dev) (slot : ContextPtr)

theorem detached_devNo : (w.detached pci e slot).devNo = w.devNo := by
  unfold World.detached World.freed unmountChrDev World.devNo
  rfl

theorem detached_ssxaDevno : (w.detached pci e slot).ssxaDevno = w.ssxaDevno := by
  unfold World.detached World.freed unmountChrDev
  rfl

theorem detached_devClass : (w.detached pci e slot).devClass = w.devClass := by
  unfold World.detached World.freed unmountChrDev
  rfl

end

theorem detach_effect {e : Dev} (chosen : w.kernel.drvdata d = some slot)
    (used : (w.driverContexts slot).pciDev = some e) :
    pciDriverDetach pci w d = .ok (w.detached pci e slot) := by
  have used' : ((unmountChrDev w slot).driverContexts slot).pciDev = some e := used
  simp only [pciDriverDetach, Kernel.pciGetDrvdata, chosen, free_used used']
  rfl

theorem detached_counter_le {owner : Dev} (bounded : w.devAttachCounter ≤ MAX_DEVICE) :
    (w.detached pci owner slot).devAttachCounter ≤ MAX_DEVICE := by
  change w.devAttachCounter - 1 ≤ MAX_DEVICE
  omega

/-- A detach that returns has found a context in use. -/
theorem detach_found {after : World Dev} (outcome : pciDriverDetach pci w d = .ok after) :
    ∃ slot owner, w.kernel.drvdata d = some slot ∧
      (w.driverContexts slot).pciDev = some owner ∧ after = w.detached pci owner slot := by
  cases chosen : w.kernel.drvdata d with
  | none => simp [pciDriverDetach, Kernel.pciGetDrvdata, chosen] at outcome
  | some slot =>
    cases used : (w.driverContexts slot).pciDev with
    | none =>
      have unused : ((unmountChrDev w slot).driverContexts slot).pciDev = none := used
      simp [pciDriverDetach, Kernel.pciGetDrvdata, chosen, freePciResources, Ssxa.freePciResources,
        unused, Except.map, bind, Except.bind] at outcome
    | some owner =>
      have detached := (detach_effect chosen used).symm.trans outcome
      exact ⟨slot, owner, rfl, used, (Except.ok.inj detached).symm⟩

end LddLearn.Pcidev02
