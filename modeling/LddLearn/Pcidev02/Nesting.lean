import LddLearn.Pcidev02.Workers

/-!
# Devices that come and go in reverse order

The counter stands for a stack: an attach takes the context on top, a detach gives the topmost
back, whichever device leaves. So with a class to make nodes in, the driver keeps its devices
apart where they leave in the reverse order of their coming and no more than `MAX_DEVICE` are
in, whatever fails in between.
-/

set_option autoImplicit false

namespace LddLearn.Pcidev02
open LddLearn.Linux LddLearn.Ssxa LddLearn.Library.Run

section Statements
variable {Dev : Type}

/-- The run state, and the devices attached, the latest first. -/
structure Nested (Dev : Type) where
  core : RunState Dev
  stack : List Dev

def Nested.start (world : World Dev) : Nested Dev := ⟨.start world, []⟩

def nestedStep [DecidableEq Dev] (pci : Dev → PciDev) (s : Nested Dev) :
    Callback Dev → Option (Nested Dev)
  | .attach d answers =>
    (step pci s.core (.attach d answers)).map fun core =>
      ⟨core, if d ∈ core.attached then d :: s.stack else s.stack⟩
  | .detach d => (step pci s.core (.detach d)).map fun core => ⟨core, s.stack.tail⟩

/-- A device that is not in comes while there is room; the one that came last leaves. -/
def NestedCalls (s : Nested Dev) : Callback Dev → Prop
  | .attach d _ => d ∉ s.stack ∧ s.stack.length < MAX_DEVICE
  | .detach d => s.stack.head? = some d

instance [DecidableEq Dev] (s : Nested Dev) : ∀ c : Callback Dev, Decidable (NestedCalls s c)
  | .attach d _ => inferInstanceAs (Decidable (d ∉ s.stack ∧ s.stack.length < MAX_DEVICE))
  | .detach d => inferInstanceAs (Decidable (s.stack.head? = some d))

/-- Each device has the context of its depth. -/
def PlacedByDepth (drvdata : Dev → Option ContextPtr) : List Dev → Prop
  | [] => True
  | d :: below =>
    (∃ slot : ContextPtr, drvdata d = some slot ∧ slot.val = below.length) ∧
      PlacedByDepth drvdata below

/-- The devices have contexts of their own, by their depth, and the counter is the depth. -/
structure Stacked (s : Nested Dev) : Prop where
  slots : SlotsOwned s.core
  depth : s.core.world.devAttachCounter = s.stack.length
  placed : PlacedByDepth s.core.world.kernel.drvdata s.stack

/-- An attach whose regions and cdev are granted gets a mapping with room for all workers. -/
def MapsMemory (pci : Dev → PciDev) (s : Nested Dev) : Callback Dev → Prop
  | .attach d answers => answers.hold.regions = .ok → answers.cdevAdd = .ok →
    ∀ slot : ContextPtr, slot.val = s.stack.length →
      let size := memBarSize (pci d) (s.core.world.driverContexts slot).devResource.memSize
      workersSpan ≤ size.toNat ∧ s.core.world.kernel.FreshRange answers.hold.ioremap size
  | .detach _ => True

instance [DecidableEq Dev] (pci : Dev → PciDev) (s : Nested Dev) :
    ∀ c : Callback Dev, Decidable (MapsMemory pci s c)
  | .attach d answers => inferInstanceAs (Decidable (answers.hold.regions = .ok →
      answers.cdevAdd = .ok → ∀ slot : ContextPtr, slot.val = s.stack.length →
        workersSpan ≤
          (memBarSize (pci d) (s.core.world.driverContexts slot).devResource.memSize).toNat ∧
        s.core.world.kernel.FreshRange answers.hold.ioremap
          (memBarSize (pci d) (s.core.world.driverContexts slot).devResource.memSize)))
  | .detach _ => isTrue trivial

theorem PlacedByDepth.below {drvdata : Dev → Option ContextPtr} {stack : List Dev} {e : Dev}
    (placed : PlacedByDepth drvdata stack) (member : e ∈ stack) :
    ∃ slot : ContextPtr, drvdata e = some slot ∧ slot.val < stack.length := by
  induction stack with
  | nil => simp at member
  | cons d below ih =>
    rcases List.mem_cons.mp member with rfl | deeper
    · obtain ⟨slot, chosen, depth⟩ := placed.1
      exact ⟨slot, chosen, by simp [depth]⟩
    · obtain ⟨slot, chosen, depth⟩ := ih placed.2 deeper
      exact ⟨slot, chosen, by simp; omega⟩

theorem PlacedByDepth.of_same {drvdata other : Dev → Option ContextPtr} {stack : List Dev}
    (placed : PlacedByDepth drvdata stack) (same : ∀ e ∈ stack, other e = drvdata e) :
    PlacedByDepth other stack := by
  induction stack with
  | nil => trivial
  | cons d below ih =>
    obtain ⟨slot, chosen, depth⟩ := placed.1
    exact ⟨⟨slot, (same d (by simp)).trans chosen, depth⟩,
      ih placed.2 fun e deeper => same e (by simp [deeper])⟩

end Statements

variable {Dev : Type} [DecidableEq Dev] {pci : Dev → PciDev} {answers : AttachAnswers}
  {s : Nested Dev} {d : Dev}

/-! ## The stack's invariant -/

structure StackInv (s : Nested Dev) : Prop where
  slots : SlotInv s.core
  attached : s.core.attached = s.stack.toFinset
  nodup : s.stack.Nodup
  depth : s.core.world.devAttachCounter = s.stack.length
  placed : PlacedByDepth s.core.world.kernel.drvdata s.stack

theorem StackInv.stacked (invariant : StackInv s) : Stacked s :=
  ⟨invariant.slots.slotsOwned, invariant.depth, invariant.placed⟩

theorem StackInv.detachAttached (invariant : StackInv s) {c : Callback Dev}
    (called : NestedCalls s c) : DetachAttached s.core c := by
  cases c with
  | attach d answers => trivial
  | detach d =>
    change d ∈ s.core.attached
    rw [invariant.attached, List.mem_toFinset]
    exact List.mem_of_mem_head? called

/-- The context on top is nobody's. -/
theorem StackInv.picksFreeSlot (invariant : StackInv s) {c : Callback Dev}
    (called : NestedCalls s c) : PicksFreeSlot s.core c := by
  cases c with
  | detach d => trivial
  | attach d answers =>
    intro _
    have depth := invariant.depth
    refine ⟨by have := called.2; omega, ?_⟩
    intro e member _ slot chosen
    rw [invariant.attached, List.mem_toFinset] at member
    obtain ⟨used, own, lower⟩ := invariant.placed.below member
    obtain rfl : slot = used := Option.some.inj (chosen.symm.trans own)
    omega

theorem nestedStep_attach {core : RunState Dev}
    (taken : step pci s.core (.attach d answers) = some core) :
    nestedStep pci s (.attach d answers) =
      some ⟨core, if d ∈ core.attached then d :: s.stack else s.stack⟩ := by
  simp [nestedStep, taken]

theorem StackInv.attach_kept (before : StackInv s) (called : NestedCalls s (.attach d answers)) :
    Leads (nestedStep pci) StackInv s (.attach d answers) := by
  have free : PicksFreeSlot s.core (.attach d answers) := before.picksFreeSlot called
  have kept : Leads (step pci) SlotInv s.core (.attach d answers) := before.slots.attach_kept free
  have outside : d ∉ s.core.attached := by simpa [before.attached] using called.1
  rcases before.slots.counter.attach_cases pci free.stopsWhenFull with
    ⟨_, taken⟩ | ⟨_, slot, ret, after, picked, taken, effect⟩
  · have absent : d ∉ (s.core.afterAttach d 0 s.core.world).attached := by
      simp [RunState.afterAttach]
    refine ⟨_, nestedStep_attach taken, ?_⟩
    rw [if_neg absent]
    refine ⟨kept.reached taken, ?_, before.nodup, before.depth, before.placed⟩
    change s.core.attached.erase d = _
    rw [Finset.erase_eq_of_notMem outside]
    exact before.attached
  · have placed : PlacedByDepth after.kernel.drvdata s.stack := by
      rw [effect.drvdata]
      refine before.placed.of_same fun e member => Function.update_of_ne ?_ ..
      rintro rfl
      exact called.1 member
    have depth := before.depth
    refine ⟨_, nestedStep_attach taken, ?_⟩
    rcases effect.counter with ⟨rfl, same⟩ | ⟨rfl, next⟩
    · have absent : d ∉ (s.core.afterAttach d 0 after).attached := by
        simp [RunState.afterAttach]
      rw [if_neg absent]
      refine ⟨kept.reached taken, ?_, before.nodup, same.trans depth, placed⟩
      change s.core.attached.erase d = _
      rw [Finset.erase_eq_of_notMem outside]
      exact before.attached
    · have present : d ∈ (s.core.afterAttach d 1 after).attached := by
        simp [RunState.afterAttach]
      rw [if_pos present]
      refine ⟨kept.reached taken, ?_, before.nodup.cons called.1, ?_, ?_, placed⟩
      · change insert d s.core.attached = (d :: s.stack).toFinset
        rw [before.attached, List.toFinset_cons]
      · change after.devAttachCounter = ((d :: s.stack).length : Nat)
        rw [List.length_cons]
        omega
      · refine ⟨slot, ?_, by omega⟩
        change after.kernel.drvdata d = some slot
        rw [effect.drvdata, Function.update_self]

theorem StackInv.detach_kept (before : StackInv s) (called : NestedCalls s (.detach d)) :
    Leads (nestedStep pci) StackInv s (.detach d) := by
  obtain ⟨core, stack⟩ := s
  obtain ⟨below, rfl⟩ : ∃ below, stack = d :: below := by
    cases stack with
    | nil => cases called
    | cons top below =>
      obtain rfl := Option.some.inj called
      exact ⟨below, rfl⟩
  have attached : d ∈ core.attached := before.detachAttached called
  have kept : Leads (step pci) SlotInv core (.detach d) := before.slots.kept _ attached trivial
  obtain ⟨slot, owner, taken, _⟩ := before.slots.counter.detach_kept pci attached
  refine ⟨_, by rw [nestedStep, taken, Option.map_some], kept.reached taken, ?_,
    before.nodup.of_cons, ?_, before.placed.2⟩
  · have set : core.attached = (d :: below).toFinset := before.attached
    change core.attached.erase d = below.toFinset
    rw [set, List.toFinset_cons, Finset.erase_insert]
    simpa using (List.nodup_cons.mp before.nodup).1
  · have depth : core.world.devAttachCounter = (d :: below).length := before.depth
    change core.world.devAttachCounter - 1 = (below.length : Nat)
    rw [depth, List.length_cons]
    omega

theorem StackInv.kept (c : Callback Dev) (before : StackInv s) (called : NestedCalls s c) :
    Leads (nestedStep pci) StackInv s c := by
  cases c with
  | attach d answers => exact before.attach_kept called
  | detach d => exact before.detach_kept called

theorem StackInv.card_le (invariant : StackInv s) : s.core.attached.card ≤ s.stack.length := by
  rw [invariant.attached]
  exact List.toFinset_card_le s.stack

theorem StackInv.bounded (invariant : StackInv s) : Bounded s.core := by
  have counter := invariant.slots.counter.counter_le
  have depth := invariant.depth
  have few := invariant.card_le
  exact ⟨counter, by omega⟩

omit [DecidableEq Dev] in
theorem StackInv.start [DecidableEq Dev] {load : LoadAnswers} {world : World Dev}
    (loaded : moduleLoad load World.boot = (0, world)) : StackInv (Nested.start world) where
  slots := .start (load_success loaded).1 (load_success loaded).2.1
  attached := rfl
  nodup := List.nodup_nil
  depth := (load_success loaded).1
  placed := trivial

/-! ## The workers -/

theorem StackInv.mapsWorkers (invariant : StackInv s) {c : Callback Dev} (called : NestedCalls s c)
    (live : classLive s.core.world) (maps : MapsMemory pci s c) : MapsWorkers pci s.core c := by
  cases c with
  | detach d => exact ⟨live, fun absent => absurd (invariant.detachAttached called) absent⟩
  | attach d answers =>
    intro granted
    obtain ⟨inside, free⟩ := invariant.picksFreeSlot called granted
    obtain ⟨slot, picked⟩ := slot_of_counter ⟨invariant.slots.counter.nonneg, inside⟩
    have depth := invariant.depth
    refine ⟨slot, picked, ?_, fun regions added => maps regions added slot (by omega)⟩
    intro e member different chosen
    exact free e member different slot chosen picked.symm

/-- The step of the driver under a step that also keeps the stack. -/
theorem nestedStep_core {t : Nested Dev} {c : Callback Dev} (taken : nestedStep pci s c = some t) :
    step pci s.core c = some t.core := by
  cases c with
  | attach d answers =>
    obtain ⟨core, stepped, rfl⟩ := Option.map_eq_some_iff.mp taken
    exact stepped
  | detach d =>
    obtain ⟨core, stepped, rfl⟩ := Option.map_eq_some_iff.mp taken
    exact stepped

/-- The stack's invariant, with the class to make nodes in. -/
structure ClassedStack (s : Nested Dev) : Prop where
  stack : StackInv s
  live : classLive s.core.world

theorem ClassedStack.kept (c : Callback Dev) (before : ClassedStack s) (called : NestedCalls s c) :
    Leads (nestedStep pci) ClassedStack s c := by
  have stacked : Leads (nestedStep pci) StackInv s c := before.stack.kept c called
  obtain ⟨t, taken, after⟩ := stacked
  exact ⟨t, taken, after, (classLive_of_step c (nestedStep_core taken)).mpr before.live⟩

/-- The stack's invariant and the workers'. -/
structure MappedStack (s : Nested Dev) : Prop where
  classed : ClassedStack s
  workers : WorkersInv s.core

theorem MappedStack.kept (c : Callback Dev) (before : MappedStack s)
    (both : NestedCalls s c ∧ MapsMemory pci s c) : Leads (nestedStep pci) MappedStack s c := by
  have classed : Leads (nestedStep pci) ClassedStack s c := before.classed.kept c both.1
  obtain ⟨t, taken, after⟩ := classed
  have maps := before.classed.stack.mapsWorkers both.1 before.classed.live both.2
  have works : Leads (step pci) WorkersInv s.core c := before.workers.kept c maps
  exact ⟨t, taken, after, works.reached (nestedStep_core taken)⟩

/-! ## Runs -/

end LddLearn.Pcidev02
