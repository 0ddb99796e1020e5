import LddLearn.Ssxa.Context

/-!
# hold_pci_resources and free_pci_resources

Both functions read the same in pcidev-02 (`pcidev.c`) and in pci-fake, but for
the name the regions are reserved under. `holdPciResources` keeps the source's
single `ret_code`: it is set by `pci_request_regions` alone, so the exit taken
when `ioremap` fails returns the zero left in it.
-/

set_option autoImplicit false

namespace LddLearn.Ssxa
open LddLearn.Linux

variable {Dev Ptr : Type} [DecidableEq Dev]

/-- The kernel's side of one call of `hold_pci_resources`. -/
structure HoldAnswers where
  regions : Answer
  /-- address `ioremap` would choose -/
  ioremap : ULong
  deriving DecidableEq, Repr

/-- One round of the loop over the BARs. -/
def scanBar (hw : PciDev) (resource : DeviceIoAddr) (bar : Fin 6) : DeviceIoAddr :=
  let regFalgs := (hw.bars bar).flags
  if regFalgs &&& IORESOURCE_IO ≠ 0 then
    let basePort := (hw.bars bar).start
    { resource with
      wPort := basePort
      sPort := basePort + 1
      cPort := basePort + 2
      rPort := basePort + 3 }
  else if regFalgs &&& IORESOURCE_MEM ≠ 0 then
    { resource with memAddr := (hw.bars bar).start, memSize := (hw.bars bar).len }
  else resource

def scanBars (hw : PciDev) (resource : DeviceIoAddr) : DeviceIoAddr :=
  (List.finRange 6).foldl (scanBar hw) resource

/-- The kind of BAR the scan takes the memory range from. -/
def MemBar (bar : Bar) : Prop :=
  bar.flags &&& IORESOURCE_IO = 0 ∧ bar.flags &&& IORESOURCE_MEM ≠ 0

instance (bar : Bar) : Decidable (MemBar bar) := inferInstanceAs (Decidable (_ ∧ _))

/-- Length of a device's last memory BAR; without one, what the slot's previous
device left. -/
def memBarSize (hw : PciDev) (leftOver : ULong) : ULong :=
  match ((List.finRange 6).filter fun bar => MemBar (hw.bars bar)).getLast? with
  | some bar => (hw.bars bar).len
  | none => leftOver

theorem scanBar_memSize (hw : PciDev) (resource : DeviceIoAddr) (bar : Fin 6) :
    (scanBar hw resource bar).memSize =
      if MemBar (hw.bars bar) then (hw.bars bar).len else resource.memSize := by
  unfold scanBar
  dsimp only
  by_cases io : (hw.bars bar).flags &&& IORESOURCE_IO = 0
  · rw [if_neg (not_not.mpr io)]
    by_cases mem : (hw.bars bar).flags &&& IORESOURCE_MEM = 0
    · rw [if_neg (not_not.mpr mem), if_neg fun both : MemBar _ => both.2 mem]
    · rw [if_pos mem, if_pos (show MemBar _ from ⟨io, mem⟩)]
  · rw [if_pos io, if_neg fun both : MemBar _ => io both.1]

theorem scanBars_memSize (hw : PciDev) (resource : DeviceIoAddr) :
    (scanBars hw resource).memSize = memBarSize hw resource.memSize := by
  unfold scanBars memBarSize
  generalize List.finRange 6 = bars
  induction bars using List.reverseRecOn with
  | nil => rfl
  | append_singleton bars bar ih =>
    rw [List.foldl_append, List.foldl_cons, List.foldl_nil, scanBar_memSize, ih,
      List.filter_append]
    by_cases mem : MemBar (hw.bars bar)
    · simp [mem]
    · simp [mem]

/-- `hold_pci_resources`: 0 success, others fail. -/
def holdPciResources (name : String) (hw : PciDev) (pcidev : Dev) (answers : HoldAnswers)
    (driverContext : DriverContext Dev) (k : Kernel Dev Ptr) :
    Int × DriverContext Dev × Kernel Dev Ptr :=
  let (retCode, k) := k.pciRequestRegions hw pcidev name answers.regions
  if retCode ≠ 0 then (retCode, driverContext, k)
  else
    let resource := scanBars hw driverContext.devResource
    let (addr, k) := k.ioremap pcidev resource.memAddr resource.memSize answers.ioremap
    let driverContext := { driverContext with
      devResource := resource
      irq := hw.irq.setWidth 8
      baseAddr := { addr, size := resource.memSize } }
    if addr = 0 then
      -- fali_clean1: ret_code still holds the 0 of pci_request_regions
      (retCode, driverContext, k.pciReleaseRegions hw pcidev)
    else
      let driverContext := { driverContext with
        wBuffer := { addr, size := 4096 }
        sBuffer := { addr := addr + 4096, size := resource.memSize - 4096 } }
      (0, driverContext, k.record (.memsetIo addr resource.memSize))

/-- `free_pci_resources`, which always returns 0. -/
def freePciResources (pci : Dev → PciDev) (driverContext : DriverContext Dev)
    (k : Kernel Dev Ptr) : Except Fault (Kernel Dev Ptr) :=
  let k := k.iounmap driverContext.baseAddr.addr
  match driverContext.pciDev with
  | none => .error .nullPointer
  | some dev => .ok (k.pciReleaseRegions (pci dev) dev)

/-! ## The outcomes of hold_pci_resources -/

section Outcomes
variable {name : String} {hw : PciDev} {pcidev : Dev} {answers : HoldAnswers}
  {driverContext : DriverContext Dev} {k : Kernel Dev Ptr}

/-- The context after `ioremap` has answered `addr`, before the buffers are set. -/
def remappedContext (hw : PciDev) (driverContext : DriverContext Dev) (addr : ULong) :
    DriverContext Dev :=
  { driverContext with
    devResource := scanBars hw driverContext.devResource
    irq := hw.irq.setWidth 8
    baseAddr := { addr, size := (scanBars hw driverContext.devResource).memSize } }

/-- The context a mapped device leaves with. -/
def mappedContext (hw : PciDev) (driverContext : DriverContext Dev) (addr : ULong) :
    DriverContext Dev :=
  { remappedContext hw driverContext addr with
    wBuffer := { addr, size := 4096 }
    sBuffer := {
      addr := addr + 4096
      size := (scanBars hw driverContext.devResource).memSize - 4096 } }

theorem hold_refused (refused : answers.regions ≠ .ok) :
    holdPciResources name hw pcidev answers driverContext k =
      (answers.regions.code, driverContext, k) := by
  cases h : answers.regions with
  | ok => exact absurd h refused
  | error errno =>
    have failed : (Answer.error errno).code ≠ 0 := by simp
    simp [holdPciResources, Kernel.pciRequestRegions, h, failed]

/-- The slip of the shared `ret_code`: no mapping, no regions, and the return
value of success. -/
theorem hold_unmapped (granted : answers.regions = .ok)
    (refused : ¬ k.FreshRange answers.ioremap (scanBars hw driverContext.devResource).memSize) :
    holdPciResources name hw pcidev answers driverContext k =
      (0, remappedContext hw driverContext 0,
        (k.pciRequestRegions hw pcidev name .ok).2.pciReleaseRegions hw pcidev) := by
  have request : (k.pciRequestRegions hw pcidev name .ok).1 = 0 := rfl
  have call := Kernel.ioremap_refused (k := (k.pciRequestRegions hw pcidev name .ok).2) pcidev
    (scanBars hw driverContext.devResource).memAddr refused
  simp only [holdPciResources, granted, request, ne_eq, not_true_eq_false, if_false, call,
    if_true, remappedContext]

/-- The mapping a successful call makes. -/
def heldMapping (hw : PciDev) (pcidev : Dev) (answers : HoldAnswers)
    (driverContext : DriverContext Dev) (k : Kernel Dev Ptr)
    (fresh : k.FreshRange answers.ioremap (scanBars hw driverContext.devResource).memSize) :
    Mapping Dev where
  serial := k.nextSerial
  owner := pcidev
  phys := (scanBars hw driverContext.devResource).memAddr
  addr := answers.ioremap
  size := (scanBars hw driverContext.devResource).memSize
  valid := fresh.1

theorem hold_mapped (granted : answers.regions = .ok)
    (fresh : k.FreshRange answers.ioremap (scanBars hw driverContext.devResource).memSize) :
    holdPciResources name hw pcidev answers driverContext k =
      (0, mappedContext hw driverContext answers.ioremap,
        { (k.pciRequestRegions hw pcidev name .ok).2 with
          mappings := heldMapping hw pcidev answers driverContext k fresh :: k.mappings
          nextSerial := k.nextSerial + 1
          log := k.log ++ [.ioremap (heldMapping hw pcidev answers driverContext k fresh)] ++
            [.memsetIo answers.ioremap (scanBars hw driverContext.devResource).memSize] }) := by
  have request : (k.pciRequestRegions hw pcidev name .ok).1 = 0 := rfl
  have call := Kernel.ioremap_fresh (k := (k.pciRequestRegions hw pcidev name .ok).2) pcidev
    (scanBars hw driverContext.devResource).memAddr fresh
  have nonNull : answers.ioremap ≠ 0 := fresh.1.1
  simp only [holdPciResources, granted, request, ne_eq, not_true_eq_false, if_false, call,
    nonNull, mappedContext, remappedContext]
  rfl

/-- The return value is the answer of `pci_request_regions`, whatever `ioremap`
does. -/
theorem hold_code :
    (holdPciResources name hw pcidev answers driverContext k).1 = answers.regions.code := by
  by_cases granted : answers.regions = .ok
  · by_cases fresh : k.FreshRange answers.ioremap (scanBars hw driverContext.devResource).memSize
    · rw [hold_mapped granted fresh, granted]
      rfl
    · rw [hold_unmapped granted fresh, granted]
      rfl
  · rw [hold_refused granted]

end Outcomes

end LddLearn.Ssxa
