import LddLearn.Ssxa.Resources

/-!
# The pcidev-02 driver

`pcidev.c`: attaching a PCI device picks
the context `driver_contexts[dev_attach_counter - 1]`, reserves and maps the
device's resources into it and mounts its character device. The labels
`fali_clean4..0` are the functions of these names, each falling through to the
next.

An index outside `driver_contexts` and a NULL dereference are `Fault`s: C gives
the callback no outcome there. Every attach takes the kernel's answers to its
calls; `class_create`, `alloc_chrdev_region` and `pci_register_driver` have
theirs in `moduleLoad`.
-/

set_option autoImplicit false

namespace LddLearn.Pcidev02
open LddLearn.Linux LddLearn.Ssxa

def MAX_DEVICE : Nat := 8
def PCI_DEVICE_NAME : String := "ssxa-pci"

/-- A `struct driver_context_t*` into `driver_contexts`; the embedded cdev goes
by the same pointer. -/
abbrev ContextPtr := Fin MAX_DEVICE

abbrev DriverKernel (Dev : Type) := Kernel Dev ContextPtr

/-- The globals of `pcidev.c` and the kernel. -/
structure World (Dev : Type) where
  ssxaDevno : DevT
  major : Nat
  driverContexts : ContextPtr → DriverContext Dev
  devClass : ClassPtr
  devAttachCounter : Int
  kernel : DriverKernel Dev

/-- Static storage as the module is inserted. -/
def World.boot {Dev : Type} : World Dev where
  ssxaDevno := ⟨0, 0⟩
  major := 0
  driverContexts := fun _ => .zero
  devClass := .null
  devAttachCounter := 0
  kernel := .boot

/-- The kernel's side of one `pci_driver_attach`. -/
structure AttachAnswers where
  enable : Answer
  hold : HoldAnswers
  cdevAdd : Answer
  deviceCreate : Answer
  deriving DecidableEq, Repr

def World.setContext {Dev : Type} (w : World Dev) (slot : ContextPtr)
    (context : DriverContext Dev) : World Dev :=
  { w with driverContexts := Function.update w.driverContexts slot context }

/-- `MKDEV(major, context->minor)` -/
def World.devNo {Dev : Type} (w : World Dev) (slot : ContextPtr) : DevT :=
  ⟨w.major, (w.driverContexts slot).minor⟩

@[simp] theorem World.setContext_same {Dev : Type} (w : World Dev) (slot : ContextPtr)
    (context : DriverContext Dev) : (w.setContext slot context).driverContexts slot = context := by
  simp [World.setContext]

theorem World.setContext_other {Dev : Type} (w : World Dev) {slot other : ContextPtr}
    (context : DriverContext Dev) (different : other ≠ slot) :
    (w.setContext slot context).driverContexts other = w.driverContexts other := by
  simp [World.setContext, different]

@[simp] theorem World.setContext_kernel {Dev : Type} (w : World Dev) (slot : ContextPtr)
    (context : DriverContext Dev) : (w.setContext slot context).kernel = w.kernel := rfl

/-- `&driver_contexts[index]`, which every caller dereferences. -/
def contextAt (index : Int) : Except Fault ContextPtr :=
  if h : 0 ≤ index ∧ index < MAX_DEVICE then .ok ⟨index.toNat, by omega⟩
  else .error (.outOfBounds index)

theorem contextAt_val (slot : ContextPtr) : contextAt (slot.val : Int) = .ok slot := by
  have inside : (0 : Int) ≤ slot.val ∧ (slot.val : Int) < MAX_DEVICE := by
    have := slot.isLt
    omega
  simp [contextAt, inside]

theorem contextAt_outside {index : Int} (outside : ¬ (0 ≤ index ∧ index < MAX_DEVICE)) :
    contextAt index = .error (.outOfBounds index) := by
  rw [contextAt, dif_neg outside]

section Driver
variable {Dev : Type} [DecidableEq Dev]

variable (pci : Dev → PciDev)

def holdPciResources (answers : HoldAnswers) (w : World Dev) (pcidev : Dev) (slot : ContextPtr) :
    Int × World Dev :=
  let held := Ssxa.holdPciResources PCI_DEVICE_NAME (pci pcidev) pcidev answers
    (w.driverContexts slot) w.kernel
  (held.1, { w.setContext slot held.2.1 with kernel := held.2.2 })

def freePciResources (w : World Dev) (slot : ContextPtr) : Except Fault (World Dev) :=
  (Ssxa.freePciResources pci (w.driverContexts slot) w.kernel).map fun kernel => { w with kernel }

/-- `mount_chr_dev`: 0 success, others failed. `device_create`'s result is not
looked at. -/
def mountChrDev (w : World Dev) (owner : Dev) (slot : ContextPtr) (devNo : DevT)
    (cdevAdd deviceCreate : Answer) : Int × World Dev :=
  let (retCode, kernel) := w.kernel.cdevAdd owner slot devNo cdevAdd
  let w := { w with kernel }
  if retCode ≠ 0 then (retCode, w)
  else
    let context := w.driverContexts slot
    let w := w.setContext slot
      { context with workers := initWorkers context.wBuffer context.sBuffer }
    (0, { w with
      kernel := w.kernel.deviceCreate owner w.devClass (w.devNo slot) PCI_DEVICE_NAME
        deviceCreate })

def unmountChrDev (w : World Dev) (slot : ContextPtr) : World Dev :=
  let kernel := w.kernel.deviceDestroy w.devClass (w.devNo slot)
  { w with kernel := kernel.cdevDel slot }

def faliClean1 (w : World Dev) : World Dev :=
  { w with devAttachCounter := w.devAttachCounter - 1 }

/-- `pci_disable_device` is commented out in the source. -/
def faliClean2 (w : World Dev) : World Dev := faliClean1 w

def faliClean3 (w : World Dev) (thisContext : ContextPtr) : Except Fault (World Dev) :=
  (freePciResources pci w thisContext).map faliClean2

/-- `pci_driver_attach` from `pci_set_drvdata` on. Label `fali_clean4` has no
jump to it. -/
def attachContext (answers : AttachAnswers) (w : World Dev) (pcidev : Dev)
    (thisContext : ContextPtr) : Except Fault (Int × World Dev) :=
  let w := { w with kernel := w.kernel.pciSetDrvdata pcidev thisContext }
  let w := w.setContext thisContext { w.driverContexts thisContext with pciDev := some pcidev }
  let (retCode, w) := holdPciResources pci answers.hold w pcidev thisContext
  if retCode ≠ 0 then .ok (0, faliClean2 w)
  else
    let (retCode, w) := mountChrDev w pcidev thisContext (w.devNo thisContext) answers.cdevAdd
      answers.deviceCreate
    if retCode ≠ 0 then (faliClean3 pci w thisContext).map (0, ·)
    else .ok (1, w)

/-- `pci_driver_attach`: 0 this driver don't handle this device, 1 it does. -/
def pciDriverAttach (answers : AttachAnswers) (w : World Dev) (pcidev : Dev) :
    Except Fault (Int × World Dev) :=
  if w.devAttachCounter > MAX_DEVICE then .ok (0, w)
  else
    let w := { w with devAttachCounter := w.devAttachCounter + 1 }
    let (retCode, kernel) := w.kernel.pciEnableDevice pcidev answers.enable
    let w := { w with kernel }
    if retCode ≠ 0 then .ok (0, faliClean1 w)
    else do
      let thisContext ← contextAt (w.devAttachCounter - 1)
      attachContext pci answers w pcidev thisContext

def pciDriverDetach (w : World Dev) (pcidev : Dev) : Except Fault (World Dev) :=
  match w.kernel.pciGetDrvdata pcidev with
  | none => .error .nullPointer
  | some thisContext => do
    let w ← freePciResources pci (unmountChrDev w thisContext) thisContext
    return { w with devAttachCounter := w.devAttachCounter - 1 }

/-- The kernel's side of one `module_load`. -/
structure LoadAnswers where
  allocChrdev : Answer
  major : Nat
  classCreate : Kernel.ClassAnswer
  registerDriver : Answer
  deriving DecidableEq, Repr

/-- `module_load`. The probes `pci_register_driver` makes for devices already
present are attaches of the run that follows. -/
def moduleLoad (answers : LoadAnswers) (w : World Dev) : Int × World Dev :=
  let (ret, first, kernel) :=
    w.kernel.allocChrdevRegion MAX_DEVICE answers.allocChrdev answers.major
  if ret < 0 then (ret, w)
  else
    let (devClass, kernel) := kernel.classCreate answers.classCreate
    let w := { w with
      ssxaDevno := first
      major := first.major
      driverContexts := initDriverContexts first.minor MAX_DEVICE
      devClass
      kernel }
    if devClass = .null then
      (-1, { w with kernel := w.kernel.unregisterChrdevRegion w.ssxaDevno MAX_DEVICE })
    else
      let ret := answers.registerDriver.code
      if ret < 0 then
        let kernel := w.kernel.classDestroy w.devClass
        (ret, { w with kernel := kernel.unregisterChrdevRegion w.ssxaDevno MAX_DEVICE })
      else (0, w)

/-- `module_unload` up to `pci_unregister_driver`, whose detaches are callbacks of the run
that follows. -/
def moduleUnload (w : World Dev) : World Dev :=
  let kernel := w.kernel.classDestroy w.devClass
  { w with kernel := kernel.unregisterChrdevRegion w.ssxaDevno MAX_DEVICE }

end Driver

end LddLearn.Pcidev02
