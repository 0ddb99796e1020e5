import LddLearn.Linux.Kernel
import LddLearn.Pcidev01.Table

/-!
# The pcidev-01 driver

`pcidev.c` from `pci_probe` on: a probe takes an entry of the table, registers a
freshly allocated cdev under its minor and reserves the device's regions. Both
error exits behind `pci_cdev_add` leave the entry taken.

`cdev_alloc` is taken to succeed: its results are numbered in the order of the
calls. `pci_enable_device`'s answer is not looked at by the source.
-/

set_option autoImplicit false

namespace LddLearn.Pcidev01
open LddLearn.Linux

def MAX_DEVICE : Nat := 8
def PCI_REGIONS_NAME : String := "IO-pci"
def SSA10A_BAR_IO : Fin 6 := 0

/-- A result of `cdev_alloc`. -/
abbrev CdevPtr := Nat

abbrev Table (Dev : Type) := List (PciCdevPair Dev CdevPtr)

/-- The `g_*` globals `pci_probe`'s BAR scan fills. -/
structure ScanResult where
  falgs : ULong
  basePort : ULong
  basePortSize : ULong
  physAddr : ULong
  memSize : ULong
  wPort : ULong
  rPort : ULong
  cPort : ULong
  sPort : ULong
  deriving DecidableEq, Repr

/-- The globals of `pcidev.c` and the kernel. -/
structure World (Dev : Type) where
  devno : DevT
  major : Nat
  scan : ScanResult
  pciCdev : Table Dev
  nextCdev : CdevPtr
  kernel : Kernel Dev CdevPtr

/-- Static storage as the module is inserted. -/
def World.boot {Dev : Type} : World Dev where
  devno := ⟨0, 0⟩
  major := 0
  scan := ⟨0, 0, 0, 0, 0, 0, 0, 0, 0⟩
  pciCdev := List.replicate MAX_DEVICE ⟨0, none, none⟩
  nextCdev := 0
  kernel := .boot

/-- The kernel's side of one `pci_probe`. -/
structure ProbeAnswers where
  cdevAdd : Answer
  enable : Answer
  regions : Answer
  deriving DecidableEq, Repr

/-- One round of the loop over the BARs. -/
def scanBar (hw : PciDev) (scan : ScanResult) (bar : Fin 6) : ScanResult :=
  let scan := { scan with falgs := (hw.bars bar).flags }
  if scan.falgs &&& IORESOURCE_IO ≠ 0 then
    let basePort := (hw.bars bar).start
    { scan with
      basePort
      basePortSize := (hw.bars bar).len
      wPort := basePort
      sPort := basePort + 1
      cPort := basePort + 2
      rPort := basePort + 3 }
  else if scan.falgs &&& IORESOURCE_MEM ≠ 0 then
    { scan with physAddr := (hw.bars bar).start, memSize := (hw.bars bar).len }
  else scan

def scanBars (hw : PciDev) (scan : ScanResult) : ScanResult :=
  (List.finRange 6).foldl (scanBar hw)
    { scan with physAddr := 0, memSize := 0, basePortSize := 0, basePort := 0, falgs := 0 }

/-- `pci_cdev[minor].cdev = cdev`: the minor is used as an index. -/
def setCdev {Dev : Type} (table : Table Dev) (minor : Int) (cdev : CdevPtr) :
    Except Fault (Table Dev) :=
  if 0 ≤ minor ∧ minor < table.length then
    .ok (table.modify minor.toNat fun pair => { pair with cdev := some cdev })
  else .error (.outOfBounds minor)

section Driver
variable {Dev : Type} [DecidableEq Dev] (pci : Dev → PciDev)

/-- `pci_probe` from `pci_enable_device` on. -/
def requestAndScan (answers : ProbeAnswers) (w : World Dev) (dev : Dev) (cdev : CdevPtr) :
    Int × World Dev :=
  let kernel := (w.kernel.pciEnableDevice dev answers.enable).2
  let (ret, kernel) := kernel.pciRequestRegions (pci dev) dev PCI_REGIONS_NAME answers.regions
  if ret ≠ 0 then (0, { w with kernel := kernel.cdevDel cdev })
  else (1, { w with kernel, scan := scanBars (pci dev) w.scan })

/-- `pci_probe` once the entry of `minor` is the device's. -/
def registerCdev (answers : ProbeAnswers) (w : World Dev) (dev : Dev) (minor : Int) :
    Except Fault (Int × World Dev) :=
  let cdev := w.nextCdev
  let (ret, kernel) := w.kernel.cdevAdd dev cdev ⟨w.major, minor⟩ answers.cdevAdd
  let w := { w with nextCdev := w.nextCdev + 1, kernel }
  if ret < 0 then .ok (0, w)
  else (setCdev w.pciCdev minor cdev).map fun pciCdev =>
    requestAndScan pci answers { w with pciCdev } dev cdev

/-- `pci_probe`: 0 => this driver don't handle this device, 1 => this driver handle this
device. -/
def pciProbe (answers : ProbeAnswers) (w : World Dev) (dev : Dev) :
    Except Fault (Int × World Dev) :=
  let (minor, pciCdev) := pciCdevAdd w.pciCdev dev
  if minor < 0 then .ok (0, { w with pciCdev })
  else registerCdev pci answers { w with pciCdev } dev minor

/-- `cdev_del`, where the pointer is not NULL. -/
def deleteCdev (kernel : Kernel Dev CdevPtr) : Option CdevPtr → Kernel Dev CdevPtr
  | none => kernel
  | some cdev => kernel.cdevDel cdev

def pciRemove (w : World Dev) (dev : Dev) : World Dev :=
  let minor := pciCdevSearchMinor w.pciCdev dev
  let kernel := deleteCdev w.kernel (pciCdevSearchCdev w.pciCdev minor)
  { w with
    pciCdev := pciCdevDel w.pciCdev dev
    kernel := kernel.pciReleaseRegion dev SSA10A_BAR_IO }

/-- The kernel's side of one `module_load`. -/
structure LoadAnswers where
  allocChrdev : Answer
  major : Nat
  registerDriver : Answer
  deriving DecidableEq, Repr

/-- `module_load`. The probes `pci_register_driver` makes for devices already present are
probes of the run that follows. -/
def moduleLoad (answers : LoadAnswers) (w : World Dev) : Int × World Dev :=
  let (ret, devno, kernel) :=
    w.kernel.allocChrdevRegion MAX_DEVICE answers.allocChrdev answers.major
  if ret < 0 then (ret, w)
  else
    let w := { w with
      devno
      major := devno.major
      pciCdev := pciCdevInit MAX_DEVICE devno.minor
      kernel }
    let ret := answers.registerDriver.code
    if ret < 0 then
      (ret, { w with kernel := w.kernel.unregisterChrdevRegion w.devno 1 })
    else (0, w)

/-- The loop of `module_unload`: `cdev_del` of a NULL cdev faults. -/
def deleteLeft (kernel : Kernel Dev CdevPtr) : Table Dev → Except Fault (Kernel Dev CdevPtr)
  | [] => .ok kernel
  | pair :: rest =>
    match pair.pciDev, pair.cdev with
    | none, _ => deleteLeft kernel rest
    | some _, none => .error .nullPointer
    | some _, some cdev => deleteLeft (kernel.cdevDel cdev) rest

/-- `module_unload`; `pci_unregister_driver` removes the bound devices, here in the order
of the list. -/
def moduleUnload (boundDevices : List Dev) (w : World Dev) : Except Fault (World Dev) :=
  let w := boundDevices.foldl pciRemove w
  (deleteLeft w.kernel w.pciCdev).map fun kernel =>
    { w with kernel := kernel.unregisterChrdevRegion w.devno MAX_DEVICE }

end Driver

end LddLearn.Pcidev01
