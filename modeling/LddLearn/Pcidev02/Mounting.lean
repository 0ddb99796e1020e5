import LddLearn.Linux.Chars
import LddLearn.Pcidev02.Slots

/-!
# Attach, detach and the character-device tables

An attach that gets its regions and its cdev returns 1 and has registered the cdev
and asked for the node, whatever `ioremap` and `device_create` answered. Every other
attach leaves cdevs, nodes, classes and device numbers as they were. Detach takes one
registration and the node of its context's number.
-/

set_option autoImplicit false

namespace LddLearn.Ssxa
open LddLearn.Linux

variable {Dev Ptr : Type} [DecidableEq Dev]

theorem holdPciResources_sameChars (name : String) (hw : PciDev) (pcidev : Dev)
    (answers : HoldAnswers) (driverContext : DriverContext Dev) (k : Kernel Dev Ptr) :
    k.SameChars (holdPciResources name hw pcidev answers driverContext k).2.2 := by
  have request := Kernel.SameChars.pciRequestRegions k hw pcidev name .ok
  by_cases granted : answers.regions = .ok
  · by_cases fresh : k.FreshRange answers.ioremap (scanBars hw driverContext.devResource).memSize
    · rw [hold_mapped granted fresh]
      refine ⟨rfl, rfl, rfl, rfl, _, List.append_assoc .., ?_⟩
      intro event member
      simp only [List.cons_append, List.nil_append, List.mem_cons, List.not_mem_nil, or_false] at member
      rcases member with rfl | rfl
      · trivial
      · trivial
    · rw [hold_unmapped granted fresh]
      exact request.trans (.pciReleaseRegions _ hw pcidev)
  · rw [hold_refused granted]
    exact .refl k

end LddLearn.Ssxa

namespace LddLearn.Pcidev02
open LddLearn.Linux LddLearn.Ssxa

variable {Dev : Type} [DecidableEq Dev] {pci : Dev → PciDev} {answers : AttachAnswers}
  {w after : World Dev} {d : Dev} {slot : ContextPtr}

/-- The answers that let an attach through to the end of `mount_chr_dev`. -/
def AttachAnswers.Mounts (answers : AttachAnswers) : Prop :=
  answers.hold.regions = .ok ∧ answers.cdevAdd = .ok

instance (answers : AttachAnswers) : Decidable answers.Mounts :=
  inferInstanceAs (Decidable (_ ∧ _))

theorem enabled_sameChars (w : World Dev) (d : Dev) : w.kernel.SameChars (w.enabled d).kernel :=
  .pciEnableDevice w.kernel d .ok

theorem held_sameChars (pci : Dev → PciDev) (holdAnswers : HoldAnswers) (w : World Dev) (d : Dev)
    (slot : ContextPtr) : w.kernel.SameChars (w.held pci holdAnswers d slot).kernel :=
  Kernel.SameChars.trans (.pciSetDrvdata w.kernel d slot)
    (holdPciResources_sameChars PCI_DEVICE_NAME (pci d) d holdAnswers _ _)

theorem freed_sameChars (pci : Dev → PciDev) (w : World Dev) (d : Dev) (slot : ContextPtr) :
    w.kernel.SameChars (w.freed pci d slot).kernel :=
  Kernel.SameChars.trans (.iounmap w.kernel _) (.pciReleaseRegions _ (pci d) d)

/-- What `mount_chr_dev` is called with is as the attach found it. -/
theorem held_frame (pci : Dev → PciDev) (holdAnswers : HoldAnswers) (w : World Dev) (d : Dev)
    (slot : ContextPtr) :
    let held := (w.enabled d).held pci holdAnswers d slot
    held.devNo slot = w.devNo slot ∧ held.devClass = w.devClass ∧ w.kernel.SameChars held.kernel := by
  have keeps := held_keeps pci holdAnswers (w.enabled d) d slot
  exact ⟨keeps.devNo.trans (opened_devNo (w.enabled d) d slot), keeps.devClass,
    (enabled_sameChars w d).trans (held_sameChars pci holdAnswers (w.enabled d) d slot)⟩

theorem attach_turned_back (pci : Dev → PciDev) (d : Dev) (picked : w.devAttachCounter = slot.val)
    (enabled : answers.enable = .ok) (turned : ¬ answers.Mounts) :
    ∃ after, pciDriverAttach pci answers w d = .ok (0, after) ∧ PastEnable slot d w 0 after ∧
      w.kernel.SameChars after.kernel ∧ after.ssxaDevno = w.ssxaDevno := by
  have reached : pciDriverAttach pci answers w d = _ := attach_past_enable picked enabled
  have enabling := enabled_sameChars w d
  by_cases granted : answers.hold.regions = .ok
  · have notAdded : answers.cdevAdd ≠ .ok := fun added => turned ⟨granted, added⟩
    have outcome := reached.trans (attachContext_unmounted granted notAdded)
    refine ⟨_, outcome, pastEnable_of_outcome picked enabled outcome, ?_, rfl⟩
    exact (enabling.trans (held_sameChars pci answers.hold _ d slot)).trans
      (freed_sameChars pci _ d slot)
  · have outcome := reached.trans (attachContext_refused granted)
    exact ⟨_, outcome, pastEnable_of_outcome picked enabled outcome,
      enabling.trans (.pciSetDrvdata _ d slot), rfl⟩

/-- What an attach that returned 1 has done to the tables. -/
structure Mounted (answers : AttachAnswers) (slot : ContextPtr) (d : Dev) (w after : World Dev) :
    Prop where
  ssxaDevno : after.ssxaDevno = w.ssxaDevno
  cdevs : after.kernel.cdevs =
    Function.update w.kernel.cdevs slot (⟨w.devNo slot, d⟩ :: w.kernel.cdevs slot)
  nodes : after.kernel.nodes =
    (w.kernel.deviceCreate d w.devClass (w.devNo slot) PCI_DEVICE_NAME answers.deviceCreate).nodes
  classes : after.kernel.classes = w.kernel.classes
  chrdevs : after.kernel.chrdevs = w.kernel.chrdevs
  log : ∃ io, (∀ event ∈ io, event.IoEvent) ∧ after.kernel.log = w.kernel.log ++ io ++
    [.cdevAdd slot (w.devNo slot) (decide (w.devNo slot ∈ w.kernel.chrdevs)),
      .deviceCreate w.devClass (w.kernel.liveClass w.devClass)]

omit [DecidableEq Dev] in
/-- The node made depends on the classes and nodes there are. -/
theorem deviceCreate_nodes_of_same {k k' : DriverKernel Dev} (same : k.SameChars k') (owner : Dev)
    (cls : ClassPtr) (devno : DevT) (name : String) (answer : Answer) :
    (k'.deviceCreate owner cls devno name answer).nodes =
      (k.deviceCreate owner cls devno name answer).nodes := by
  simp only [Kernel.deviceCreate, same.liveClass, same.nodes]

theorem attach_mounts (pci : Dev → PciDev) (d : Dev) (picked : w.devAttachCounter = slot.val)
    (enabled : answers.enable = .ok) (mounts : answers.Mounts) :
    ∃ after, pciDriverAttach pci answers w d = .ok (1, after) ∧ PastEnable slot d w 1 after ∧
      Mounted answers slot d w after := by
  have outcome : pciDriverAttach pci answers w d = _ :=
    (attach_past_enable picked enabled).trans (attachContext_mounted mounts.1 mounts.2)
  refine ⟨_, outcome, pastEnable_of_outcome picked enabled outcome, ?_⟩
  obtain ⟨devNo, devClass, same⟩ := held_frame pci answers.hold w d slot
  have ssxaDevno : ((w.enabled d).held pci answers.hold d slot).ssxaDevno = w.ssxaDevno := rfl
  generalize (w.enabled d).held pci answers.hold d slot = held at devNo devClass same ssxaDevno
  obtain ⟨io, log, ioEvents⟩ := same.log
  refine ⟨ssxaDevno, ?_, ?_, same.classes, same.chrdevs, io, ioEvents, ?_⟩
  · change Function.update held.kernel.cdevs slot _ = _
    rw [devNo, same.cdevs]
  · rw [← deviceCreate_nodes_of_same same]
    change (Kernel.deviceCreate _ d held.devClass (held.devNo slot) _ _).nodes = _
    rw [devNo, devClass]
    rfl
  · change held.kernel.log ++ [_] ++ [_] = _
    have live : (held.kernel.cdevAdd d slot (w.devNo slot) .ok).2.liveClass w.devClass =
        w.kernel.liveClass w.devClass := Kernel.liveClass_of_classes same.classes w.devClass
    rw [log, devNo, devClass, same.chrdevs, live, List.append_assoc]
    rfl

/-- Whatever context a device's drvdata is, some device was given it. -/
def DrvdataUsed (w : World Dev) : Prop :=
  ∀ e slot, w.kernel.drvdata e = some slot → ∃ owner, (w.driverContexts slot).pciDev = some owner

theorem PastEnable.drvdataUsed {ret : Int} (effect : PastEnable slot d w ret after)
    (before : DrvdataUsed w) : DrvdataUsed after := by
  intro other any chosen
  by_cases here : any = slot
  · exact ⟨d, here ▸ effect.pciDev⟩
  · rw [effect.others any here]
    rw [effect.drvdata] at chosen
    by_cases same : other = d
    · subst same
      rw [Function.update_self] at chosen
      exact absurd (Option.some.inj chosen).symm here
    · rw [Function.update_of_ne same] at chosen
      exact before other any chosen

/-! ## Detach -/

/-- What a detach has done to the tables, the events it logged first and later. -/
structure Unmounted (slot : ContextPtr) (w after : World Dev) : Prop where
  cdevs : after.kernel.cdevs = Function.update w.kernel.cdevs slot (w.kernel.cdevs slot).tail
  nodes : after.kernel.nodes = (w.kernel.deviceDestroy w.devClass (w.devNo slot)).nodes
  classes : after.kernel.classes = w.kernel.classes
  chrdevs : after.kernel.chrdevs = w.kernel.chrdevs
  log : ∃ io, (∀ event ∈ io, event.IoEvent) ∧ after.kernel.log = w.kernel.log ++
    [.deviceDestroy w.devClass (w.kernel.liveClass w.devClass) (w.devNo slot)
        ((w.kernel.nodeIn w.devClass (w.devNo slot)).map (·.owner)),
      .cdevDel slot ((w.kernel.cdevs slot).head?.map (·.owner))] ++ io

theorem detached_unmounted (pci : Dev → PciDev) (w : World Dev) (e : Dev) (slot : ContextPtr) :
    Unmounted slot w (w.detached pci e slot) := by
  obtain ⟨io, log, ioEvents⟩ := (freed_sameChars pci (unmountChrDev w slot) e slot).log
  refine ⟨rfl, rfl, rfl, rfl, io, ioEvents, ?_⟩
  have unmounted : (unmountChrDev w slot).kernel.log = w.kernel.log ++ [_] ++ [_] := rfl
  rw [unmounted, List.append_assoc w.kernel.log] at log
  exact log

theorem DrvdataUsed.detached (before : DrvdataUsed w) (pci : Dev → PciDev) (e : Dev)
    (slot : ContextPtr) : DrvdataUsed (w.detached pci e slot) := by
  intro other any chosen
  change w.kernel.drvdata other = some any at chosen
  exact before other any chosen

/-! ## The class -/

omit [DecidableEq Dev] in
theorem classLive_iff_of_same (devClass : after.devClass = w.devClass)
    (classes : after.kernel.classes = w.kernel.classes) : classLive after ↔ classLive w := by
  unfold classLive
  rw [devClass, Kernel.liveClass_of_classes classes]

/-- Attach and detach neither make nor destroy a class. -/
theorem classLive_of_step {r r' : RunState Dev} (c : Callback Dev) (taken : step pci r c = some r') :
    classLive r'.world ↔ classLive r.world := by
  cases c with
  | attach d answers =>
    obtain ⟨ret, after, outcome, rfl⟩ := attach_of_step taken
    rcases attach_reach pci answers r.world d with
      ⟨untouched, _⟩ | ⟨fault, faulted, _⟩ | ⟨slot, picked, enabled⟩
    · obtain ⟨rfl, rfl⟩ := Prod.mk.inj (Except.ok.inj (untouched.symm.trans outcome))
      exact Iff.rfl
    · cases faulted.symm.trans outcome
    · have effect := pastEnable_of_outcome picked enabled outcome
      by_cases mounts : answers.Mounts
      · obtain ⟨after', outcome', _, mounted⟩ := attach_mounts pci d picked enabled mounts
        obtain ⟨_, rfl⟩ := Prod.mk.inj (Except.ok.inj (outcome'.symm.trans outcome))
        exact classLive_iff_of_same effect.devClass mounted.classes
      · obtain ⟨after', outcome', _, same, _⟩ := attach_turned_back pci d picked enabled mounts
        obtain ⟨_, rfl⟩ := Prod.mk.inj (Except.ok.inj (outcome'.symm.trans outcome))
        exact classLive_iff_of_same effect.devClass same.classes
  | detach d =>
    obtain ⟨slot, owner, _, _, rfl⟩ := detach_of_step taken
    exact classLive_iff_of_same (detached_devClass pci r.world owner slot)
      (detached_unmounted pci r.world owner slot).classes

/-! ## Load -/

omit [DecidableEq Dev] in
theorem drvdataUsed_of_loaded {load : LoadAnswers} {world : World Dev}
    (loaded : moduleLoad load World.boot = (0, world)) : DrvdataUsed world := by
  intro e slot chosen
  obtain ⟨_, _, rfl⟩ := load_classed loaded
  have none_yet : ((World.boot : World Dev).classed load).kernel.drvdata e = none := by
    unfold World.classed
    cases load.classCreate <;> rfl
  exact absurd (none_yet.symm.trans chosen) (by simp)

omit [DecidableEq Dev] in
/-- A class that is not NULL is live exactly when it is no ERR_PTR. -/
theorem classed_live_iff {load : LoadAnswers} (w : World Dev) (notNull : load.classCreate ≠ .null) :
    classLive (w.classed load) ↔ load.classCreate ≠ .errPtr := by
  unfold classLive World.classed
  cases answer : load.classCreate with
  | null => exact absurd answer notNull
  | errPtr => simp [Kernel.classCreate, Kernel.liveClass]
  | created => simp [Kernel.classCreate, Kernel.liveClass]

omit [DecidableEq Dev] in
theorem classLive_loaded {load : LoadAnswers} {before world : World Dev}
    (loaded : moduleLoad load before = (0, world)) (made : load.classCreate ≠ .errPtr) :
    classLive world := by
  obtain ⟨_, notNull, rfl⟩ := load_classed loaded
  exact (classed_live_iff before notNull).mpr made

end LddLearn.Pcidev02
