import LddLearn.Linux.Kernel

/-!
# Calls that leave character devices alone

Reserving regions, mapping memory and enabling a device touch neither cdevs nor
classes nor device numbers. `SameChars` is that frame; what such calls log is
`IoEvent`s only.
-/

set_option autoImplicit false

namespace LddLearn.Linux

variable {Dev Ptr : Type}

/-- The event of a call on regions or mapped memory. -/
def Event.IoEvent : Event Dev Ptr → Prop
  | .ioremap _ => True
  | .memsetIo _ _ => True
  | .iounmap _ _ => True
  | .pciReleaseRegions _ _ => True
  | .pciReleaseRegion _ _ _ => True
  | .cdevAdd _ _ _ => False
  | .cdevDel _ _ => False
  | .deviceCreate _ _ => False
  | .deviceDestroy _ _ _ _ => False
  | .classDestroy _ _ => False

namespace Kernel

theorem mem_devRange {first devno : DevT} {count : Nat} :
    devno ∈ devRange first count ↔ ∃ i < count, devno = { first with minor := first.minor + i } := by
  simp only [devRange, List.bind_eq_flatMap, List.pure_def, List.mem_map, List.mem_flatMap,
    List.mem_range, List.mem_singleton]
  constructor
  · rintro ⟨_, ⟨i, inside, rfl⟩, rfl⟩
    exact ⟨i, inside, rfl⟩
  · rintro ⟨i, inside, rfl⟩
    exact ⟨_, ⟨i, inside, rfl⟩, rfl⟩

theorem deviceCreate_skips {k : Kernel Dev Ptr} {cls : ClassPtr} {devno : DevT} {answer : Answer}
    (skips : ¬ k.CreatesNode cls devno answer) (owner : Dev) (name : String) :
    (k.deviceCreate owner cls devno name answer).nodes = k.nodes := by
  apply if_neg
  rintro ⟨granted, live, free⟩
  exact skips ⟨granted, live, Option.isNone_iff_eq_none.mp free⟩

theorem deviceDestroy_other (k : Kernel Dev Ptr) (cls : ClassPtr) {devno other : DevT}
    (different : other ≠ devno) : (k.deviceDestroy cls devno).nodes other = k.nodes other := by
  unfold deviceDestroy
  dsimp only
  split
  · exact Function.update_of_ne different _ _
  · rfl

theorem deviceDestroy_found (k : Kernel Dev Ptr) {cls : ClassPtr} {devno : DevT}
    (found : k.nodeIn cls devno ≠ none) : (k.deviceDestroy cls devno).nodes devno = none := by
  have some_node : (k.nodeIn cls devno).isSome = true := Option.isSome_iff_ne_none.mpr found
  simp only [deviceDestroy, some_node, if_true, Function.update_self]

/-- Destroying the node that was just made leaves the nodes from before. -/
theorem deviceDestroy_made {k : Kernel Dev Ptr} {node : Node Dev} {devno : DevT}
    {before : DevT → Option (Node Dev)} (made : k.nodes = Function.update before devno (some node))
    (free : before devno = none) : (k.deviceDestroy node.cls devno).nodes = before := by
  have found : k.nodeIn node.cls devno = some node := by
    rw [nodeIn, made, Function.update_self]
    simp
  simp only [deviceDestroy, found, Option.isSome_some, if_true]
  rw [made, Function.update_idem, ← free, Function.update_eq_self]

/-- The log grew by events of one kind. -/
def LogsOnly (kind : Event Dev Ptr → Prop) (before after : Kernel Dev Ptr) : Prop :=
  ∃ events, after.log = before.log ++ events ∧ ∀ event ∈ events, kind event

/-- Cdevs, device nodes, classes and device numbers are as before. -/
structure SameChars (before after : Kernel Dev Ptr) : Prop where
  cdevs : after.cdevs = before.cdevs
  nodes : after.nodes = before.nodes
  classes : after.classes = before.classes
  chrdevs : after.chrdevs = before.chrdevs
  log : LogsOnly Event.IoEvent before after

variable {kind : Event Dev Ptr → Prop} {k before middle after : Kernel Dev Ptr}

theorem LogsOnly.of_same (same : after.log = before.log) : LogsOnly kind before after :=
  ⟨[], by simpa using same, by simp⟩

theorem LogsOnly.trans (first : LogsOnly kind before middle) (second : LogsOnly kind middle after) :
    LogsOnly kind before after := by
  obtain ⟨early, log, earlyKind⟩ := first
  obtain ⟨late, log', lateKind⟩ := second
  refine ⟨early ++ late, by rw [log', log, List.append_assoc], ?_⟩
  intro event member
  cases List.mem_append.mp member with
  | inl here => exact earlyKind event here
  | inr here => exact lateKind event here

namespace SameChars

theorem trans (first : SameChars before middle) (second : SameChars middle after) :
    SameChars before after where
  cdevs := second.cdevs.trans first.cdevs
  nodes := second.nodes.trans first.nodes
  classes := second.classes.trans first.classes
  chrdevs := second.chrdevs.trans first.chrdevs
  log := first.log.trans second.log

theorem refl (k : Kernel Dev Ptr) : SameChars k k :=
  ⟨rfl, rfl, rfl, rfl, .of_same rfl⟩

theorem liveClass (same : SameChars before after) (cls : ClassPtr) :
    after.liveClass cls = before.liveClass cls :=
  liveClass_of_classes same.classes cls

/-- A call that logs one event about regions or memory and sets nothing else of the tables. -/
theorem of_event (event : Event Dev Ptr) (io : event.IoEvent) (cdevs : after.cdevs = before.cdevs)
    (nodes : after.nodes = before.nodes) (classes : after.classes = before.classes)
    (chrdevs : after.chrdevs = before.chrdevs) (log : after.log = before.log ++ [event]) :
    SameChars before after where
  cdevs := cdevs
  nodes := nodes
  classes := classes
  chrdevs := chrdevs
  log := ⟨[event], log, by simpa using io⟩

section Pci
variable [DecidableEq Dev]

theorem pciEnableDevice (k : Kernel Dev Ptr) (dev : Dev) (answer : Answer) :
    SameChars k (k.pciEnableDevice dev answer).2 := by
  cases answer with
  | ok => exact ⟨rfl, rfl, rfl, rfl, .of_same rfl⟩
  | error errno => exact refl k

theorem pciSetDrvdata (k : Kernel Dev Ptr) (dev : Dev) (data : Ptr) :
    SameChars k (k.pciSetDrvdata dev data) :=
  ⟨rfl, rfl, rfl, rfl, .of_same rfl⟩

theorem pciRequestRegions (k : Kernel Dev Ptr) (hw : PciDev) (dev : Dev) (name : String)
    (answer : Answer) : SameChars k (k.pciRequestRegions hw dev name answer).2 := by
  cases answer with
  | ok => exact ⟨rfl, rfl, rfl, rfl, .of_same rfl⟩
  | error errno => exact refl k

theorem pciReleaseRegions (k : Kernel Dev Ptr) (hw : PciDev) (dev : Dev) :
    SameChars k (k.pciReleaseRegions hw dev) :=
  of_event (.pciReleaseRegions dev (decide (k.HoldsRegions hw dev))) trivial rfl rfl rfl rfl rfl

end Pci

theorem ioremap (k : Kernel Dev Ptr) (owner : Dev) (phys size answer : ULong) :
    SameChars k (k.ioremap owner phys size answer).2 := by
  by_cases fresh : k.FreshRange answer size
  · rw [ioremap_fresh owner phys fresh]
    exact of_event (.ioremap _) trivial rfl rfl rfl rfl rfl
  · rw [ioremap_refused owner phys fresh]
    exact refl k

theorem iounmap (k : Kernel Dev Ptr) (addr : ULong) : SameChars k (k.iounmap addr) :=
  of_event (.iounmap addr _) trivial rfl rfl rfl rfl rfl

theorem record (k : Kernel Dev Ptr) {event : Event Dev Ptr} (io : event.IoEvent) :
    SameChars k (k.record event) :=
  of_event event io rfl rfl rfl rfl rfl

end SameChars

end Kernel

end LddLearn.Linux
