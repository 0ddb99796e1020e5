import LddLearn.Ssxa.Resources

/-!
# What hold_pci_resources leaves behind

Of the six BARs the last IO BAR gives the ports and the last memory BAR the range to map; a
kind that the device lacks leaves its fields to the context's previous occupant. The length
of the IO BAR is read and not used. And since the exit behind `ioremap` returns the
`ret_code` of `pci_request_regions`, the return value does not tell a mapped device from an
unmapped one.
-/

set_option autoImplicit false

namespace LddLearn.Ssxa
open LddLearn.Linux

/-! ## The BARs that count -/

def IoBar (bar : Bar) : Prop := bar.flags &&& IORESOURCE_IO ≠ 0

instance (bar : Bar) : Decidable (IoBar bar) :=
  inferInstanceAs (Decidable (bar.flags &&& IORESOURCE_IO ≠ 0))

/-- The last BAR of a kind. -/
def lastBar (kind : Bar → Prop) [DecidablePred kind] (hw : PciDev) : Option Bar :=
  (((List.finRange 6).map hw.bars).filter kind).getLast?

def DeviceIoAddr.withPorts (resource : DeviceIoAddr) : Option Bar → DeviceIoAddr
  | none => resource
  | some bar =>
    { resource with
      wPort := bar.start
      sPort := bar.start + 1
      cPort := bar.start + 2
      rPort := bar.start + 3 }

def DeviceIoAddr.withMemory (resource : DeviceIoAddr) : Option Bar → DeviceIoAddr
  | none => resource
  | some bar => { resource with memAddr := bar.start, memSize := bar.len }

theorem lastBar_mem {kind : Bar → Prop} [DecidablePred kind] {hw : PciDev} {bar : Bar}
    (last : lastBar kind hw = some bar) : kind bar ∧ ∃ index, hw.bars index = bar := by
  have member := List.mem_of_getLast? last
  rw [List.mem_filter, List.mem_map] at member
  obtain ⟨⟨index, _, same⟩, isKind⟩ := member
  exact ⟨of_decide_eq_true isKind, index, same⟩

theorem lastBar_eq_none (kind : Bar → Prop) [DecidablePred kind] (hw : PciDev) :
    lastBar kind hw = none ↔ ∀ index, ¬ kind (hw.bars index) := by
  simp [lastBar]

theorem lastBar_append (kind : Bar → Prop) [DecidablePred kind] (bars : List Bar) (bar : Bar) :
    ((bars ++ [bar]).filter kind).getLast? =
      if kind bar then some bar else (bars.filter kind).getLast? := by
  by_cases isKind : kind bar
  · simp [List.filter_append, isKind]
  · simp [List.filter_append, isKind]

/-- A later BAR of a kind overrides the earlier, and the kinds do not meet. -/
theorem DeviceIoAddr.withPorts_withPorts (resource : DeviceIoAddr) (earlier : Option Bar)
    (bar : Bar) : (resource.withPorts earlier).withPorts (some bar) = resource.withPorts (some bar) := by
  cases earlier <;> rfl

theorem DeviceIoAddr.withMemory_withMemory (resource : DeviceIoAddr) (earlier : Option Bar)
    (bar : Bar) :
    (resource.withMemory earlier).withMemory (some bar) = resource.withMemory (some bar) := by
  cases earlier <;> rfl

theorem DeviceIoAddr.withPorts_comm (resource : DeviceIoAddr) (io mem : Option Bar) :
    (resource.withMemory mem).withPorts io = (resource.withPorts io).withMemory mem := by
  cases io <;> cases mem <;> rfl

theorem scanBar_eq (hw : PciDev) (resource : DeviceIoAddr) (bar : Fin 6) :
    scanBar hw resource bar =
      if IoBar (hw.bars bar) then resource.withPorts (some (hw.bars bar))
      else if MemBar (hw.bars bar) then resource.withMemory (some (hw.bars bar))
      else resource := by
  unfold scanBar IoBar MemBar
  by_cases io : (hw.bars bar).flags &&& IORESOURCE_IO = 0
  · simp only [io, ne_eq, not_true_eq_false, if_false, true_and]
    rfl
  · simp only [io, ne_eq, not_false_eq_true, if_true]
    rfl

/-- The scan ends with the ports of the last IO BAR and the range of the last memory BAR. -/
theorem scanBars_eq (hw : PciDev) (resource : DeviceIoAddr) :
    scanBars hw resource =
      (resource.withPorts (lastBar IoBar hw)).withMemory (lastBar MemBar hw) := by
  unfold scanBars lastBar
  generalize List.finRange 6 = bars
  induction bars using List.reverseRecOn with
  | nil => rfl
  | append_singleton bars bar ih =>
    rw [List.foldl_append, ih, List.map_append, List.map_singleton, lastBar_append, lastBar_append,
      List.foldl_cons, List.foldl_nil, scanBar_eq]
    by_cases io : IoBar (hw.bars bar)
    · have notMem : ¬ MemBar (hw.bars bar) := fun mem => io mem.1
      rw [if_pos io, if_pos io, if_neg notMem, DeviceIoAddr.withPorts_comm,
        DeviceIoAddr.withPorts_withPorts]
    · by_cases mem : MemBar (hw.bars bar)
      · rw [if_neg io, if_neg io, if_pos mem, if_pos mem, DeviceIoAddr.withMemory_withMemory]
      · rw [if_neg io, if_neg io, if_neg mem, if_neg mem]

/-! ## Properties and conditions -/

section Statements
variable {Dev Ptr : Type}

/-- What a call leaves: its return value, the context and the kernel. -/
abbrev HoldResult (Dev Ptr : Type) := Int × DriverContext Dev × Kernel Dev Ptr

/-- The device's regions are reserved, and `base_addr` is a live mapping of `mem_size` bytes
that was made since `before`. -/
def Holds (hw : PciDev) (pcidev : Dev) (before : Kernel Dev Ptr) (context : DriverContext Dev)
    (after : Kernel Dev Ptr) : Prop :=
  after.HoldsRegions hw pcidev ∧ ∃ m, before.freshMapping after = some m ∧
    after.mappingAt context.baseAddr.addr = some m ∧ m.owner = pcidev ∧
      m.size = context.devResource.memSize

/-- The call returns 0 when it holds both regions and mapping, and else has taken neither. -/
structure AllOrNothing (hw : PciDev) (pcidev : Dev) (before : Kernel Dev Ptr)
    (result : HoldResult Dev Ptr) : Prop where
  success : result.1 = 0 ↔ Holds hw pcidev before result.2.1 result.2.2
  regions : result.1 ≠ 0 → result.2.2.regions = before.regions
  mappings : result.1 ≠ 0 → result.2.2.mappings = before.mappings

/-- Two calls end alike, as far as the new device's ports and memory go. -/
structure SameResult (one two : HoldResult Dev Ptr) : Prop where
  code : one.1 = two.1
  devResource : one.2.1.devResource = two.2.1.devResource
  baseAddr : one.2.1.baseAddr = two.2.1.baseAddr
  wBuffer : one.2.1.wBuffer = two.2.1.wBuffer
  sBuffer : one.2.1.sBuffer = two.2.1.sBuffer

/-- Two contexts agree on whatever of an earlier occupant outlasts a call: everything when
the regions are refused, the ports of a device without IO BAR, the range of one without
memory BAR, and the buffers of one that cannot be mapped. -/
structure LeftoversAgree [DecidableEq Dev] (hw : PciDev) (answers : HoldAnswers)
    (k : Kernel Dev Ptr) (one two : DriverContext Dev) : Prop where
  refused : answers.regions ≠ .ok → one.devResource = two.devResource ∧
    one.baseAddr = two.baseAddr ∧ one.wBuffer = two.wBuffer ∧ one.sBuffer = two.sBuffer
  ports : answers.regions = .ok → (∀ index, ¬ IoBar (hw.bars index)) →
    one.devResource.wPort = two.devResource.wPort ∧
    one.devResource.rPort = two.devResource.rPort ∧
    one.devResource.cPort = two.devResource.cPort ∧
    one.devResource.sPort = two.devResource.sPort
  memory : answers.regions = .ok → (∀ index, ¬ MemBar (hw.bars index)) →
    one.devResource.memAddr = two.devResource.memAddr ∧
    one.devResource.memSize = two.devResource.memSize
  buffers : answers.regions = .ok →
    ¬ k.FreshRange answers.ioremap (memBarSize hw one.devResource.memSize) →
    one.wBuffer = two.wBuffer ∧ one.sBuffer = two.sBuffer

/-- The port belongs to the BAR. -/
def InBar (bar : Bar) (port : ULong) : Prop :=
  bar.start.toNat ≤ port.toNat ∧ port.toNat < bar.start.toNat + bar.len.toNat

instance (bar : Bar) (port : ULong) : Decidable (InBar bar port) :=
  inferInstanceAs (Decidable (_ ∧ _))

/-- All four ports are in one IO BAR of the device, and the memory range is one of its memory
BARs. -/
structure RecordsBars (hw : PciDev) (resource : DeviceIoAddr) : Prop where
  ports : ∃ index, IoBar (hw.bars index) ∧ InBar (hw.bars index) resource.wPort ∧
    InBar (hw.bars index) resource.sPort ∧ InBar (hw.bars index) resource.cPort ∧
    InBar (hw.bars index) resource.rPort
  memory : ∃ index, MemBar (hw.bars index) ∧ resource.memAddr = (hw.bars index).start ∧
    resource.memSize = (hw.bars index).len

/-- Four ports from the start of the last IO BAR on are in an IO BAR, and there is a memory
BAR. -/
structure HasPortsAndMemory (hw : PciDev) : Prop where
  ports : ∃ last ∈ lastBar IoBar hw, last.start.toNat + 3 < 2 ^ 64 ∧
    ∃ index, IoBar (hw.bars index) ∧ (hw.bars index).start.toNat ≤ last.start.toNat ∧
      last.start.toNat + 3 < (hw.bars index).start.toNat + (hw.bars index).len.toNat
  memory : ∃ index, MemBar (hw.bars index)

end Statements

variable {Dev Ptr : Type} [DecidableEq Dev] {name : String} {hw : PciDev} {pcidev : Dev}
  {answers : HoldAnswers} {driverContext one two : DriverContext Dev} {k : Kernel Dev Ptr}

/-! ## All or nothing -/

theorem holdsRegions_requested (name : String) (hw : PciDev) (pcidev : Dev) (k : Kernel Dev Ptr) :
    (k.pciRequestRegions hw pcidev name .ok).2.HoldsRegions hw pcidev := by
  intro bar implemented
  simp only [Kernel.pciRequestRegions, Function.update_self, if_neg implemented]
  exact Option.some_ne_none name

/-- A call is all or nothing exactly when `ioremap` answers, once the regions are reserved. -/
theorem hold_all_or_nothing_iff :
    AllOrNothing hw pcidev k (holdPciResources name hw pcidev answers driverContext k) ↔
      (answers.regions = .ok →
        k.FreshRange answers.ioremap (memBarSize hw driverContext.devResource.memSize)) := by
  rw [← scanBars_memSize]
  by_cases granted : answers.regions = .ok
  · by_cases fresh : k.FreshRange answers.ioremap (scanBars hw driverContext.devResource).memSize
    · rw [hold_mapped granted fresh]
      refine iff_of_true ⟨iff_of_true rfl ?_, ?_, ?_⟩ (fun _ => fresh)
      · refine ⟨holdsRegions_requested name hw pcidev k,
          heldMapping hw pcidev answers driverContext k fresh, ?_, ?_, rfl, rfl⟩
        · simp [Kernel.freshMapping, Kernel.freshLog]
        · simp [Kernel.mappingAt, heldMapping, mappedContext, remappedContext]
      · intro failed
        exact absurd rfl failed
      · intro failed
        exact absurd rfl failed
    · rw [hold_unmapped granted fresh]
      refine iff_of_false ?_ (fun mapped => fresh (mapped granted))
      intro sound
      obtain ⟨_, m, made, _⟩ := sound.success.mp rfl
      simp [Kernel.freshMapping, Kernel.freshLog, Kernel.pciReleaseRegions,
        Kernel.pciRequestRegions] at made
  · rw [hold_refused granted]
    have failed : answers.regions.code ≠ 0 := by simpa using granted
    refine iff_of_true ⟨iff_of_false failed ?_, fun _ => rfl, fun _ => rfl⟩
      (fun impossible => absurd impossible granted)
    rintro ⟨_, m, made, _⟩
    simp [Kernel.freshMapping, Kernel.freshLog] at made

/-- A card with `ports` I/O ports and `memory` bytes of memory, if any. -/
def bareCard (ports memory : ULong) : PciDev where
  bars := fun bar =>
    match bar.val with
    | 0 => { flags := IORESOURCE_IO, start := 0xc000, len := ports }
    | 1 => { flags := if memory = 0 then 0 else IORESOURCE_MEM, start := 0xfebf0000, len := memory }
    | _ => { flags := 0, start := 0, len := 0 }
  irq := 11

/-- `ioremap` answers NULL, and the call returns 0 with nothing held. -/
theorem unmapped_reported_held :
    ¬ ∀ (hw : PciDev) (answers : HoldAnswers) (context : DriverContext Nat) (k : Kernel Nat Nat),
      AllOrNothing hw 0 k (holdPciResources "ssxa-pci" hw 0 answers context k) := by
  intro claim
  obtain ⟨_, m, made, _⟩ :=
    (claim (bareCard 256 8192) ⟨.ok, 0⟩ (initDriverContexts 0 8 0) .boot).success.mp rfl
  have nothing : (Kernel.boot : Kernel Nat Nat).freshMapping (holdPciResources "ssxa-pci"
      (bareCard 256 8192) 0 ⟨.ok, 0⟩ (initDriverContexts 0 8 0) .boot).2.2 = none := by
    decide +kernel
  exact Option.some_ne_none m (made.symm.trans nothing)

/-! ## What an earlier occupant leaves -/

theorem scanBars_agree_iff (hw : PciDev) (one two : DeviceIoAddr) :
    scanBars hw one = scanBars hw two ↔
      ((∀ index, ¬ IoBar (hw.bars index)) → one.wPort = two.wPort ∧ one.rPort = two.rPort ∧
        one.cPort = two.cPort ∧ one.sPort = two.sPort) ∧
      ((∀ index, ¬ MemBar (hw.bars index)) →
        one.memAddr = two.memAddr ∧ one.memSize = two.memSize) := by
  rw [scanBars_eq, scanBars_eq, ← lastBar_eq_none, ← lastBar_eq_none]
  cases one
  cases two
  cases lastBar IoBar hw <;> cases lastBar MemBar hw <;>
    simp [DeviceIoAddr.withPorts, DeviceIoAddr.withMemory, and_assoc]

theorem hold_devResource (granted : answers.regions = .ok) :
    (holdPciResources name hw pcidev answers driverContext k).2.1.devResource =
      scanBars hw driverContext.devResource := by
  by_cases fresh : k.FreshRange answers.ioremap (scanBars hw driverContext.devResource).memSize
  · rw [hold_mapped granted fresh]
    rfl
  · rw [hold_unmapped granted fresh]
    rfl

theorem same_result_granted_iff (granted : answers.regions = .ok) :
    SameResult (holdPciResources name hw pcidev answers one k)
        (holdPciResources name hw pcidev answers two k) ↔
      scanBars hw one.devResource = scanBars hw two.devResource ∧
        (¬ k.FreshRange answers.ioremap (scanBars hw one.devResource).memSize →
          one.wBuffer = two.wBuffer ∧ one.sBuffer = two.sBuffer) := by
  constructor
  · intro same
    have resource : scanBars hw one.devResource = scanBars hw two.devResource := by
      have recorded := same.devResource
      rwa [hold_devResource granted, hold_devResource granted] at recorded
    refine ⟨resource, fun unmapped => ?_⟩
    have unmapped' := resource ▸ unmapped
    have wBuffer := same.wBuffer
    have sBuffer := same.sBuffer
    rw [hold_unmapped granted unmapped, hold_unmapped granted unmapped'] at wBuffer sBuffer
    exact ⟨wBuffer, sBuffer⟩
  · rintro ⟨resource, buffers⟩
    by_cases fresh : k.FreshRange answers.ioremap (scanBars hw one.devResource).memSize
    · have fresh' : k.FreshRange answers.ioremap (scanBars hw two.devResource).memSize :=
        resource ▸ fresh
      rw [hold_mapped granted fresh, hold_mapped granted fresh']
      refine ⟨rfl, resource, ?_, rfl, ?_⟩
      · simp [mappedContext, remappedContext, resource]
      · simp [mappedContext, resource]
    · have fresh' : ¬ k.FreshRange answers.ioremap (scanBars hw two.devResource).memSize :=
        resource ▸ fresh
      obtain ⟨wBuffer, sBuffer⟩ := buffers fresh
      rw [hold_unmapped granted fresh, hold_unmapped granted fresh']
      refine ⟨rfl, resource, ?_, wBuffer, sBuffer⟩
      simp [remappedContext, resource]

/-- Two calls for one device end alike exactly when the contexts they find agree on what
outlasts the call. -/
theorem same_result_iff_leftovers_agree :
    SameResult (holdPciResources name hw pcidev answers one k)
        (holdPciResources name hw pcidev answers two k) ↔
      LeftoversAgree hw answers k one two := by
  by_cases granted : answers.regions = .ok
  · rw [same_result_granted_iff granted, scanBars_agree_iff, scanBars_memSize]
    constructor
    · rintro ⟨⟨ports, memory⟩, buffers⟩
      exact ⟨fun refused => absurd granted refused, fun _ => ports, fun _ => memory,
        fun _ => buffers⟩
    · intro agree
      exact ⟨⟨agree.ports granted, agree.memory granted⟩, agree.buffers granted⟩
  · rw [hold_refused granted, hold_refused granted]
    constructor
    · intro same
      refine ⟨fun _ => ⟨same.devResource, same.baseAddr, same.wBuffer, same.sBuffer⟩, ?_, ?_, ?_⟩
      all_goals exact fun impossible => absurd impossible granted
    · intro agree
      obtain ⟨devResource, baseAddr, wBuffer, sBuffer⟩ := agree.refused granted
      exact ⟨rfl, devResource, baseAddr, wBuffer, sBuffer⟩

/-- The context a card with memory has left. -/
def leftContext : DriverContext Nat :=
  { initDriverContexts 0 8 0 with
    devResource := ⟨0xd000, 0xd003, 0xd002, 0xd001, 0xfebf0000, 8192⟩ }

/-- Behind a card with memory, a card without gets the memory of the other mapped. -/
theorem leftover_memory_mapped :
    ¬ ∀ (hw : PciDev) (answers : HoldAnswers) (one two : DriverContext Nat) (k : Kernel Nat Nat),
      SameResult (holdPciResources "ssxa-pci" hw 0 answers one k)
        (holdPciResources "ssxa-pci" hw 0 answers two k) := by
  intro claim
  have same := (claim (bareCard 256 0) ⟨.ok, 0xffffc90000000000⟩ (initDriverContexts 0 8 0)
    leftContext .boot).devResource
  exact absurd same (by decide +kernel)

/-! ## The recorded BARs -/

/-- Four consecutive ports do not wrap within a BAR. -/
theorem ports_inBar_iff (bar : Bar) (start : ULong) :
    (InBar bar start ∧ InBar bar (start + 1) ∧ InBar bar (start + 2) ∧ InBar bar (start + 3)) ↔
      start.toNat + 3 < 2 ^ 64 ∧ bar.start.toNat ≤ start.toNat ∧
        start.toNat + 3 < bar.start.toNat + bar.len.toNat := by
  have first : (1 : ULong).toNat = 1 := rfl
  have second : (2 : ULong).toNat = 2 := rfl
  have third : (3 : ULong).toNat = 3 := rfl
  have width := start.isLt
  have length := bar.len.isLt
  simp only [InBar, BitVec.toNat_add, first, second, third]
  omega

/-- The memory range is that of the last memory BAR, so there only has to be one. -/
theorem withMemory_recorded_iff (hw : PciDev) (resource : DeviceIoAddr) :
    (∃ index, MemBar (hw.bars index) ∧
        (resource.withMemory (lastBar MemBar hw)).memAddr = (hw.bars index).start ∧
        (resource.withMemory (lastBar MemBar hw)).memSize = (hw.bars index).len) ↔
      ∃ index, MemBar (hw.bars index) := by
  constructor
  · rintro ⟨index, mem, _⟩
    exact ⟨index, mem⟩
  · rintro ⟨index, mem⟩
    cases last : lastBar MemBar hw with
    | none => exact absurd mem ((lastBar_eq_none MemBar hw).mp last index)
    | some bar =>
      obtain ⟨isMem, found, rfl⟩ := lastBar_mem last
      exact ⟨found, isMem, rfl, rfl⟩

theorem scanBars_records_iff (hw : PciDev) (resource : DeviceIoAddr) :
    RecordsBars hw (scanBars hw resource) ↔ HasPortsAndMemory hw := by
  rw [scanBars_eq]
  have memory := withMemory_recorded_iff hw (resource.withPorts (lastBar IoBar hw))
  cases last : lastBar IoBar hw with
  | none =>
    have noIo := (lastBar_eq_none IoBar hw).mp last
    constructor
    · intro records
      obtain ⟨index, io, _⟩ := records.ports
      exact absurd io (noIo index)
    · intro has
      obtain ⟨bar, member, _⟩ := has.ports
      rw [last] at member
      cases member
  | some bar =>
    rw [last] at memory
    have recorded : (resource.withPorts (some bar)).withMemory (lastBar MemBar hw) =
        (resource.withMemory (lastBar MemBar hw)).withPorts (some bar) :=
      (DeviceIoAddr.withPorts_comm ..).symm
    constructor
    · intro records
      obtain ⟨index, io, ports⟩ := records.ports
      rw [recorded] at ports
      obtain ⟨room, low, high⟩ := (ports_inBar_iff (hw.bars index) bar.start).mp ports
      exact ⟨⟨bar, last, room, index, io, low, high⟩, memory.mp records.memory⟩
    · intro has
      obtain ⟨other, member, room, index, io, low, high⟩ := has.ports
      obtain rfl : bar = other := Option.some.inj (last.symm.trans member)
      refine ⟨⟨index, io, ?_⟩, memory.mpr has.memory⟩
      rw [recorded]
      exact (ports_inBar_iff (hw.bars index) bar.start).mpr ⟨room, low, high⟩

/-- Whenever the call returns 0 the recorded ports and memory are the device's, exactly when a
device whose regions are granted has a memory BAR and four ports from the start of its last IO
BAR on. -/
theorem hold_records_bars_iff :
    ((holdPciResources name hw pcidev answers driverContext k).1 = 0 →
        RecordsBars hw (holdPciResources name hw pcidev answers driverContext k).2.1.devResource) ↔
      (answers.regions = .ok → HasPortsAndMemory hw) := by
  rw [hold_code, Answer.code_eq_zero]
  refine forall_congr' fun granted => ?_
  rw [hold_devResource granted]
  exact scanBars_records_iff hw driverContext.devResource

/-- A card with two ports only is taken for one with four. -/
theorem ports_outside_bar :
    ¬ ∀ (hw : PciDev) (answers : HoldAnswers) (slot : Fin 8) (k : Kernel Nat Nat),
      let context := { (initDriverContexts 0 8 slot : DriverContext Nat) with pciDev := some 0 }
      let result := holdPciResources "ssxa-pci" hw 0 answers context k
      result.1 = 0 → RecordsBars hw result.2.1.devResource := by
  intro claim
  have ports := (claim (bareCard 2 8192) ⟨.ok, 0xffffc90000000000⟩ 0 .boot rfl).ports
  exact absurd ports (by decide +kernel)

end LddLearn.Ssxa
