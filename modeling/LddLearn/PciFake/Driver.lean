import LddLearn.Library.Run
import LddLearn.Ssxa.Resources
import Mathlib.Data.Finset.Card

/-!
# The pci-fake driver

`probe` puts every device into `driver_contexts[0]`; `remove` frees the context in the
device's drvdata. What `probe` does to the device once it is held (`reset_device`,
`reset_io`, `test_io`) changes device memory and ports only; the modules on the reset, the
handshake and the whole probe model it.
-/

set_option autoImplicit false

namespace LddLearn.PciFake.Binding
open LddLearn.Linux LddLearn.Ssxa LddLearn.Library.Run

def MAX_DEVICE : Nat := 4
def PCI_DEVICE_NAME : String := "fake-pci"

/-- A `struct driver_context_t*` into `driver_contexts`. -/
abbrev ContextPtr := Fin MAX_DEVICE

/-- The globals of `pcidev.c` and the kernel. -/
structure World (Dev : Type) where
  devno : DevT
  driverContexts : ContextPtr → DriverContext Dev
  kernel : Kernel Dev ContextPtr

/-- Static storage as the module is inserted. -/
def World.boot {Dev : Type} : World Dev where
  devno := ⟨0, 0⟩
  driverContexts := fun _ => .zero
  kernel := .boot

/-- `&driver_contexts[0]` -/
def firstContext : ContextPtr := ⟨0, by decide⟩

def World.setContext {Dev : Type} (w : World Dev) (slot : ContextPtr)
    (context : DriverContext Dev) : World Dev :=
  { w with driverContexts := Function.update w.driverContexts slot context }

@[simp] theorem World.setContext_self {Dev : Type} (w : World Dev) (slot : ContextPtr)
    (context : DriverContext Dev) : (w.setContext slot context).driverContexts slot = context := by
  simp [World.setContext]

def initWorkersOf {Dev : Type} (context : DriverContext Dev) : DriverContext Dev :=
  { context with workers := initWorkers context.wBuffer context.sBuffer }

/-- The kernel's side of one `probe`. -/
structure ProbeAnswers where
  enable : Answer
  hold : HoldAnswers
  deriving DecidableEq, Repr

section Driver
variable {Dev : Type} [DecidableEq Dev] (pci : Dev → PciDev)

/-- `probe`, which returns 0 or -1. -/
def probe (answers : ProbeAnswers) (w : World Dev) (dev : Dev) : Int × World Dev :=
  let (retCode, kernel) := w.kernel.pciEnableDevice dev answers.enable
  if retCode ≠ 0 then (-1, { w with kernel })
  else
    let thisContext := firstContext
    let w := { w with kernel := kernel.pciSetDrvdata dev thisContext }
    let w := w.setContext thisContext { w.driverContexts thisContext with pciDev := some dev }
    let (retCode, context, kernel) := holdPciResources PCI_DEVICE_NAME (pci dev) dev answers.hold
      (w.driverContexts thisContext) w.kernel
    let w := { w.setContext thisContext context with kernel }
    if retCode ≠ 0 then (-1, w)
    else (0, w.setContext thisContext (initWorkersOf (w.driverContexts thisContext)))

/-- `remove`; a NULL drvdata or `pci_dev` has no defined outcome. -/
def remove (w : World Dev) (dev : Dev) : Except Fault (World Dev) :=
  match w.kernel.pciGetDrvdata dev with
  | none => .error .nullPointer
  | some thisContext =>
    (freePciResources pci (w.driverContexts thisContext) w.kernel).map fun kernel =>
      { w with kernel }

end Driver

/-- The kernel's side of one `krn_module_init`. -/
structure InitAnswers where
  allocChrdev : Answer
  major : Nat
  registerDriver : Answer
  deriving DecidableEq, Repr

/-- `krn_module_init`. The probes `pci_register_driver` makes for devices already present
are probes of the run that follows. -/
def krnModuleInit {Dev : Type} (answers : InitAnswers) (w : World Dev) : Int × World Dev :=
  let (retCode, devno, kernel) :=
    w.kernel.allocChrdevRegion MAX_DEVICE answers.allocChrdev answers.major
  if retCode < 0 then (retCode, w)
  else
    let w := { w with
      devno
      driverContexts := initDriverContexts devno.minor MAX_DEVICE
      kernel }
    let retCode := answers.registerDriver.code
    if retCode < 0 then
      (retCode, { w with kernel := w.kernel.unregisterChrdevRegion w.devno MAX_DEVICE })
    else (retCode, w)

/-! ## Runs -/

/-- The world, the devices whose last `probe` returned 0, and what `ioremap` returned
during each device's last probe. -/
structure RunState (Dev : Type) where
  world : World Dev
  bound : Finset Dev
  mapped : Dev → Option (Mapping Dev)

def RunState.start {Dev : Type} (world : World Dev) : RunState Dev := ⟨world, ∅, fun _ => none⟩

inductive Callback (Dev : Type) where
  | probe (dev : Dev) (answers : ProbeAnswers)
  | remove (dev : Dev)
  deriving DecidableEq, Repr

section Step
variable {Dev : Type} [DecidableEq Dev]

def RunState.afterProbe (r : RunState Dev) (dev : Dev) (ret : Int) (world : World Dev) :
    RunState Dev where
  world := world
  bound := if ret = 0 then insert dev r.bound else r.bound
  mapped := Function.update r.mapped dev (Kernel.freshMapping r.world.kernel world.kernel)

def step (pci : Dev → PciDev) (r : RunState Dev) : Callback Dev → Option (RunState Dev)
  | .probe dev answers =>
    let (ret, world) := probe pci answers r.world dev
    some (r.afterProbe dev ret world)
  | .remove dev =>
    match remove pci r.world dev with
    | .ok world => some { r with world, bound := r.bound.erase dev }
    | .error _ => none

/-- The PCI core probes a device it has not bound, and removes one it has. -/
def CoreCalls (r : RunState Dev) : Callback Dev → Prop
  | .probe dev _ => dev ∉ r.bound
  | .remove dev => dev ∈ r.bound

instance (r : RunState Dev) : ∀ c : Callback Dev, Decidable (CoreCalls r c)
  | .probe dev _ => inferInstanceAs (Decidable (dev ∉ r.bound))
  | .remove dev => inferInstanceAs (Decidable (dev ∈ r.bound))

end Step

/-! ## The outcomes of probe and remove -/

section Outcomes
variable {Dev : Type} [DecidableEq Dev] {pci : Dev → PciDev} {answers : ProbeAnswers}
  {w : World Dev} {d e : Dev}

theorem probe_not_enabled (refused : answers.enable ≠ .ok) :
    probe pci answers w d = (-1, w) := by
  cases answer : answers.enable with
  | ok => exact absurd answer refused
  | error errno =>
    have failed : (Answer.error errno).code ≠ 0 := by simp
    simp [probe, Kernel.pciEnableDevice, answer, failed]

/-- The context a probe calls `hold_pci_resources` with. -/
def World.claimed (w : World Dev) (d : Dev) : DriverContext Dev :=
  { w.driverContexts firstContext with pciDev := some d }

/-- The kernel in which it calls it. -/
def World.enabled (w : World Dev) (d : Dev) : Kernel Dev ContextPtr :=
  (w.kernel.pciEnableDevice d .ok).2.pciSetDrvdata d firstContext

theorem probe_enabled (granted : answers.enable = .ok) :
    probe pci answers w d =
      let held := holdPciResources PCI_DEVICE_NAME (pci d) d answers.hold (w.claimed d) (w.enabled d)
      if held.1 ≠ 0 then (-1, { w.setContext firstContext held.2.1 with kernel := held.2.2 })
      else (0, { w.setContext firstContext (initWorkersOf held.2.1) with kernel := held.2.2 }) := by
  unfold probe World.claimed World.enabled
  rw [granted]
  simp only [Kernel.pciEnableDevice, ne_eq, not_true_eq_false, if_false, World.setContext,
    Function.update_self, Function.update_idem]
  rfl

/-- Refused regions leave the context to the device that is turned down. -/
theorem probe_refused (granted : answers.enable = .ok) (refused : answers.hold.regions ≠ .ok) :
    probe pci answers w d =
      (-1, { w.setContext firstContext (w.claimed d) with kernel := w.enabled d }) := by
  have failed : answers.hold.regions.code ≠ 0 := by simpa using refused
  rw [probe_enabled granted, hold_refused refused]
  exact if_pos failed

/-- Without a mapping `probe` still returns 0: the context's address is NULL, the regions
are given back. -/
theorem probe_unmapped (granted : answers.enable = .ok) (regions : answers.hold.regions = .ok)
    (refused : ¬ w.kernel.FreshRange answers.hold.ioremap
      (scanBars (pci d) (w.claimed d).devResource).memSize) :
    probe pci answers w d =
      (0, { w.setContext firstContext (initWorkersOf (remappedContext (pci d) (w.claimed d) 0)) with
        kernel := ((w.enabled d).pciRequestRegions (pci d) d PCI_DEVICE_NAME .ok).2.pciReleaseRegions
          (pci d) d }) := by
  rw [probe_enabled granted, hold_unmapped regions (show ¬ (w.enabled d).FreshRange _ _ from refused)]
  exact if_neg (not_not.mpr rfl)

theorem probe_mapped (granted : answers.enable = .ok) (regions : answers.hold.regions = .ok)
    (fresh : w.kernel.FreshRange answers.hold.ioremap
      (scanBars (pci d) (w.claimed d).devResource).memSize) :
    let m := heldMapping (pci d) d answers.hold (w.claimed d) w.kernel fresh
    probe pci answers w d =
      (0, { w.setContext firstContext
          (initWorkersOf (mappedContext (pci d) (w.claimed d) answers.hold.ioremap)) with
        kernel := { ((w.enabled d).pciRequestRegions (pci d) d PCI_DEVICE_NAME .ok).2 with
          mappings := m :: w.kernel.mappings
          nextSerial := w.kernel.nextSerial + 1
          log := w.kernel.log ++ [.ioremap m] ++
            [.memsetIo answers.hold.ioremap
              (scanBars (pci d) (w.claimed d).devResource).memSize] } }) := by
  intro m
  rw [probe_enabled granted, hold_mapped regions (show (w.enabled d).FreshRange _ _ from fresh)]
  exact if_neg (not_not.mpr rfl)

/-- What `remove` does when the device's drvdata is a context in use by `e`. -/
theorem remove_used {slot : ContextPtr} (chosen : w.kernel.drvdata d = some slot)
    (used : (w.driverContexts slot).pciDev = some e) :
    remove pci w d = .ok { w with
      kernel := (w.kernel.iounmap (w.driverContexts slot).baseAddr.addr).pciReleaseRegions
        (pci e) e } := by
  simp only [remove, Kernel.pciGetDrvdata, chosen, freePciResources, used, Except.map]

end Outcomes

end LddLearn.PciFake.Binding
