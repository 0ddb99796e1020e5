import Mathlib.Data.BitVec
import Mathlib.Logic.Function.Basic

/-!
# Kernel services the PCI drivers call

What pcidev-01, pcidev-02 and pci-fake rely on outside their own source: the PCI
core, `ioremap`, character-device registration and the device class. A call that
may fail takes the kernel's `Answer` as an argument, so a theorem over all
answers covers every failure. `ioremap` is given the address the kernel would
choose and turns it down when it is not a fresh range, as the kernel never hands
out overlapping mappings.

`owner` arguments and the `log` are bookkeeping of the model: they record on
behalf of which PCI device a resource was taken, and what each releasing call
found. No driver function reads them.
-/

set_option autoImplicit false

namespace LddLearn.Linux

/-- `unsigned long` of a 64-bit host. -/
abbrev ULong := BitVec 64

def IORESOURCE_IO : ULong := 0x100
def IORESOURCE_MEM : ULong := 0x200

/-- Why a callback has no defined outcome. -/
inductive Fault where
  | outOfBounds (index : Int)
  | nullPointer
  deriving DecidableEq, Repr

/-- Answer to a fallible call: 0, or a negative errno. -/
inductive Answer where
  | ok
  | error (errno : Nat)
  deriving DecidableEq, Repr

def Answer.code : Answer → Int
  | .ok => 0
  | .error errno => -(errno + 1 : Nat)

@[simp] theorem Answer.code_ok : Answer.code .ok = 0 := rfl

@[simp] theorem Answer.code_eq_zero (answer : Answer) : answer.code = 0 ↔ answer = .ok := by
  cases answer with
  | ok => simp
  | error errno => simp only [Answer.code, reduceCtorEq, iff_false]; omega

@[simp] theorem Answer.code_neg (answer : Answer) : answer.code < 0 ↔ answer ≠ .ok := by
  cases answer with
  | ok => simp
  | error errno => simp only [Answer.code, ne_eq, reduceCtorEq, not_false_eq_true, iff_true]; omega

/-- One base address register as `pci_resource_flags/start/len` report it. -/
structure Bar where
  flags : ULong
  start : ULong
  len : ULong
  deriving DecidableEq, Repr

/-- The part of `struct pci_dev` the drivers read. -/
structure PciDev where
  bars : Fin 6 → Bar
  irq : BitVec 32

/-- A device number, `MKDEV(major, minor)`. -/
structure DevT where
  major : Nat
  minor : Int
  deriving DecidableEq, Repr

/-- The value `class_create` leaves in a `struct class*`. -/
inductive ClassPtr where
  | null
  | errPtr
  | valid (serial : Nat)
  deriving DecidableEq, Repr

/-- A range of addresses that is not empty, does not wrap and does not start at NULL. -/
def ValidRange (addr size : ULong) : Prop :=
  addr ≠ 0 ∧ size ≠ 0 ∧ addr.toNat + size.toNat ≤ 2 ^ 64

instance (addr size : ULong) : Decidable (ValidRange addr size) :=
  inferInstanceAs (Decidable (_ ∧ _ ∧ _))

/-- A live result of `ioremap`; `serial` counts the calls that succeeded before it. -/
structure Mapping (Dev : Type) where
  serial : Nat
  owner : Dev
  phys : ULong
  addr : ULong
  size : ULong
  valid : ValidRange addr size
  deriving DecidableEq, Repr

theorem Mapping.size_pos {Dev : Type} (m : Mapping Dev) : 0 < m.size.toNat :=
  BitVec.toNat_pos_of_ne_zero m.valid.2.1

/-- The pointer lies inside the mapping. -/
def Mapping.Covers {Dev : Type} (m : Mapping Dev) (pointer : ULong) : Prop :=
  m.addr.toNat ≤ pointer.toNat ∧ pointer.toNat < m.addr.toNat + m.size.toNat

instance {Dev : Type} (m : Mapping Dev) (pointer : ULong) : Decidable (m.Covers pointer) :=
  inferInstanceAs (Decidable (_ ∧ _))

/-- Adding an offset below the size neither wraps nor leaves the mapping. -/
theorem Mapping.toNat_offset {Dev : Type} (m : Mapping Dev) {offset : Nat}
    (inside : offset < m.size.toNat) :
    (m.addr + BitVec.ofNat 64 offset).toNat = m.addr.toNat + offset := by
  have fits := m.valid.2.2
  rw [BitVec.toNat_add, BitVec.toNat_ofNat, Nat.mod_eq_of_lt (a := offset) (by omega)]
  exact Nat.mod_eq_of_lt (by omega)

theorem Mapping.covers_offset {Dev : Type} (m : Mapping Dev) {offset : Nat}
    (inside : offset < m.size.toNat) : m.Covers (m.addr + BitVec.ofNat 64 offset) := by
  unfold Mapping.Covers
  rw [m.toNat_offset inside]
  omega

/-- A registration of a cdev under a device number. -/
structure Registration (Dev : Type) where
  devno : DevT
  owner : Dev
  deriving DecidableEq, Repr

/-- A device node of a class. -/
structure Node (Dev : Type) where
  cls : ClassPtr
  name : String
  owner : Dev
  deriving DecidableEq, Repr

/-- What a call did or found, for the calls the properties speak about. -/
inductive Event (Dev Ptr : Type) where
  | ioremap (mapping : Mapping Dev)
  | memsetIo (addr size : ULong)
  | iounmap (addr : ULong) (owner : Option Dev)
  | pciReleaseRegions (dev : Dev) (held : Bool)
  | pciReleaseRegion (dev : Dev) (bar : Fin 6) (held : Bool)
  | cdevAdd (cdev : Ptr) (devno : DevT) (reserved : Bool)
  | cdevDel (cdev : Ptr) (owner : Option Dev)
  | deviceCreate (cls : ClassPtr) (live : Bool)
  | deviceDestroy (cls : ClassPtr) (live : Bool) (devno : DevT) (owner : Option Dev)
  | classDestroy (cls : ClassPtr) (live : Bool)
  deriving DecidableEq, Repr

/-- Kernel state as far as one of the drivers touches it. `Ptr` is the type of
the driver objects the kernel keeps pointers to. -/
structure Kernel (Dev Ptr : Type) where
  enableCount : Dev → Nat
  drvdata : Dev → Option Ptr
  /-- name under which a BAR of the device is reserved -/
  regions : Dev → Fin 6 → Option String
  mappings : List (Mapping Dev)
  nextSerial : Nat
  /-- latest registration first -/
  cdevs : Ptr → List (Registration Dev)
  nodes : DevT → Option (Node Dev)
  classes : List Nat
  nextClass : Nat
  /-- reserved character-device numbers -/
  chrdevs : List DevT
  log : List (Event Dev Ptr)

namespace Kernel

variable {Dev Ptr : Type}

/-- Nothing held on behalf of the driver yet. -/
def boot : Kernel Dev Ptr where
  enableCount := fun _ => 0
  drvdata := fun _ => none
  regions := fun _ _ => none
  mappings := []
  nextSerial := 0
  cdevs := fun _ => []
  nodes := fun _ => none
  classes := []
  nextClass := 0
  chrdevs := []
  log := []

def record (k : Kernel Dev Ptr) (event : Event Dev Ptr) : Kernel Dev Ptr :=
  { k with log := k.log ++ [event] }

/-- The events logged since an earlier state. -/
def freshLog (before after : Kernel Dev Ptr) : List (Event Dev Ptr) :=
  after.log.drop before.log.length

/-! ## PCI core -/

section Pci
variable [DecidableEq Dev]

def pciEnableDevice (k : Kernel Dev Ptr) (dev : Dev) (answer : Answer) : Int × Kernel Dev Ptr :=
  match answer with
  | .ok =>
    (0, { k with enableCount := Function.update k.enableCount dev (k.enableCount dev + 1) })
  | .error _ => (answer.code, k)

def pciSetDrvdata (k : Kernel Dev Ptr) (dev : Dev) (data : Ptr) : Kernel Dev Ptr :=
  { k with drvdata := Function.update k.drvdata dev (some data) }

def pciGetDrvdata (k : Kernel Dev Ptr) (dev : Dev) : Option Ptr := k.drvdata dev

/-- Reserves every implemented BAR (one of nonzero length), or none. -/
def pciRequestRegions (k : Kernel Dev Ptr) (hw : PciDev) (dev : Dev) (name : String)
    (answer : Answer) : Int × Kernel Dev Ptr :=
  match answer with
  | .ok =>
    let reserved := fun bar => if (hw.bars bar).len = 0 then k.regions dev bar else some name
    (0, { k with regions := Function.update k.regions dev reserved })
  | .error _ => (answer.code, k)

/-- Every implemented BAR of the device is reserved. -/
def HoldsRegions (k : Kernel Dev Ptr) (hw : PciDev) (dev : Dev) : Prop :=
  ∀ bar, (hw.bars bar).len ≠ 0 → k.regions dev bar ≠ none

instance (k : Kernel Dev Ptr) (hw : PciDev) (dev : Dev) : Decidable (k.HoldsRegions hw dev) :=
  inferInstanceAs (Decidable (∀ bar, (hw.bars bar).len ≠ 0 → k.regions dev bar ≠ none))

def pciReleaseRegions (k : Kernel Dev Ptr) (hw : PciDev) (dev : Dev) : Kernel Dev Ptr :=
  { k with
    regions := Function.update k.regions dev (fun _ => none)
    log := k.log ++ [.pciReleaseRegions dev (decide (k.HoldsRegions hw dev))] }

def pciReleaseRegion (k : Kernel Dev Ptr) (dev : Dev) (bar : Fin 6) : Kernel Dev Ptr :=
  { k with
    regions := Function.update k.regions dev (Function.update (k.regions dev) bar none)
    log := k.log ++ [.pciReleaseRegion dev bar (k.regions dev bar).isSome] }

end Pci

/-! ## Memory mappings -/

/-- A valid range that meets no live mapping. -/
def FreshRange (k : Kernel Dev Ptr) (addr size : ULong) : Prop :=
  ValidRange addr size ∧
    ∀ m ∈ k.mappings, addr.toNat + size.toNat ≤ m.addr.toNat ∨
      m.addr.toNat + m.size.toNat ≤ addr.toNat

instance (k : Kernel Dev Ptr) (addr size : ULong) : Decidable (k.FreshRange addr size) :=
  inferInstanceAs (Decidable (_ ∧ _))

/-- A fresh range starts where no live mapping does. -/
theorem FreshRange.addr_ne {k : Kernel Dev Ptr} {addr size : ULong}
    (fresh : k.FreshRange addr size) {m : Mapping Dev} (live : m ∈ k.mappings) :
    m.addr ≠ addr := by
  intro same
  have apart := fresh.2 m live
  have sized : 0 < size.toNat := BitVec.toNat_pos_of_ne_zero fresh.1.2.1
  have := m.size_pos
  rw [same] at apart
  omega

/-- Unmapping what was mapped on a fresh range leaves the mappings there were. -/
theorem FreshRange.unmap {k : Kernel Dev Ptr} {m : Mapping Dev} {size : ULong}
    (fresh : k.FreshRange m.addr size) :
    (m :: k.mappings).filter (·.addr ≠ m.addr) = k.mappings := by
  rw [List.filter_cons_of_neg (by simp)]
  exact List.filter_eq_self.mpr fun other live => decide_eq_true (fresh.addr_ne live)

/-- NULL unless the kernel can offer a fresh range of that size. -/
def ioremap (k : Kernel Dev Ptr) (owner : Dev) (phys size answer : ULong) :
    ULong × Kernel Dev Ptr :=
  if fresh : k.FreshRange answer size then
    let mapping :=
      { serial := k.nextSerial, owner, phys, addr := answer, size, valid := fresh.1 }
    (answer, { k with
      mappings := mapping :: k.mappings
      nextSerial := k.nextSerial + 1
      log := k.log ++ [.ioremap mapping] })
  else (0, k)

theorem ioremap_fresh {k : Kernel Dev Ptr} {size answer : ULong} (owner : Dev) (phys : ULong)
    (fresh : k.FreshRange answer size) :
    k.ioremap owner phys size answer =
      let mapping :=
        { serial := k.nextSerial, owner, phys, addr := answer, size, valid := fresh.1 }
      (answer, { k with
        mappings := mapping :: k.mappings
        nextSerial := k.nextSerial + 1
        log := k.log ++ [.ioremap mapping] }) :=
  dif_pos fresh

theorem ioremap_refused {k : Kernel Dev Ptr} {size answer : ULong} (owner : Dev) (phys : ULong)
    (refused : ¬ k.FreshRange answer size) : k.ioremap owner phys size answer = (0, k) :=
  dif_neg refused

def mappingAt (k : Kernel Dev Ptr) (addr : ULong) : Option (Mapping Dev) :=
  k.mappings.find? (·.addr = addr)

/-- Unmaps the mapping that starts at `addr`; other addresses are ignored. -/
def iounmap (k : Kernel Dev Ptr) (addr : ULong) : Kernel Dev Ptr :=
  { k with
    mappings := k.mappings.filter (·.addr ≠ addr)
    log := k.log ++ [.iounmap addr ((k.mappingAt addr).map (·.owner))] }

theorem mappingAt_iounmap_other (k : Kernel Dev Ptr) {addr other : ULong}
    (different : addr ≠ other) : (k.iounmap other).mappingAt addr = k.mappingAt addr := by
  unfold iounmap mappingAt
  rw [List.find?_filter]
  congr 1
  funext m
  by_cases here : m.addr = addr
  · simp [here, different]
  · simp [here]

theorem addr_of_mappingAt {k : Kernel Dev Ptr} {addr : ULong} {m : Mapping Dev}
    (found : k.mappingAt addr = some m) : m ∈ k.mappings ∧ m.addr = addr :=
  ⟨List.mem_of_find?_eq_some found, by simpa using List.find?_some found⟩

/-- The mapping made between two states, if any. -/
def freshMapping (before after : Kernel Dev Ptr) : Option (Mapping Dev) :=
  (freshLog before after).findSome? fun
    | .ioremap mapping => some mapping
    | _ => none

/-! ## Character devices and classes -/

section Char
variable [DecidableEq Ptr]

def cdevAdd (k : Kernel Dev Ptr) (owner : Dev) (cdev : Ptr) (devno : DevT) (answer : Answer) :
    Int × Kernel Dev Ptr :=
  match answer with
  | .ok =>
    (0, { k with
      cdevs := Function.update k.cdevs cdev ({ devno, owner } :: k.cdevs cdev)
      log := k.log ++ [.cdevAdd cdev devno (decide (devno ∈ k.chrdevs))] })
  | .error _ => (answer.code, k)

def cdevDel (k : Kernel Dev Ptr) (cdev : Ptr) : Kernel Dev Ptr :=
  { k with
    cdevs := Function.update k.cdevs cdev (k.cdevs cdev).tail
    log := k.log ++ [.cdevDel cdev ((k.cdevs cdev).head?.map (·.owner))] }

end Char

/-- The class pointer designates a class that exists. -/
def liveClass (k : Kernel Dev Ptr) : ClassPtr → Bool
  | .null => false
  | .errPtr => false
  | .valid serial => serial ∈ k.classes

theorem liveClass_of_classes {k after : Kernel Dev Ptr} (classes : after.classes = k.classes)
    (cls : ClassPtr) : after.liveClass cls = k.liveClass cls := by
  cases cls with
  | null => rfl
  | errPtr => rfl
  | valid serial => rw [liveClass, liveClass, classes]

/-- The class exists, no node has the number yet, and the kernel does not refuse. -/
def CreatesNode (k : Kernel Dev Ptr) (cls : ClassPtr) (devno : DevT) (answer : Answer) : Prop :=
  answer = .ok ∧ k.liveClass cls = true ∧ k.nodes devno = none

/-- Makes the node if it can. -/
def deviceCreate (k : Kernel Dev Ptr) (owner : Dev) (cls : ClassPtr) (devno : DevT)
    (name : String) (answer : Answer) : Kernel Dev Ptr :=
  let created := answer = .ok ∧ k.liveClass cls = true ∧ (k.nodes devno).isNone
  { k with
    nodes := if created then Function.update k.nodes devno (some { cls, name, owner }) else k.nodes
    log := k.log ++ [.deviceCreate cls (k.liveClass cls)] }

theorem deviceCreate_creates {k : Kernel Dev Ptr} {cls : ClassPtr} {devno : DevT}
    {answer : Answer} (creates : k.CreatesNode cls devno answer) (owner : Dev) (name : String) :
    k.deviceCreate owner cls devno name answer = { k with
      nodes := Function.update k.nodes devno (some { cls, name, owner })
      log := k.log ++ [.deviceCreate cls (k.liveClass cls)] } := by
  simp [deviceCreate, creates.1, creates.2.1, creates.2.2]

theorem CreatesNode.of_same {k after : Kernel Dev Ptr} {cls : ClassPtr} {devno : DevT}
    {answer : Answer} (creates : k.CreatesNode cls devno answer)
    (classes : after.classes = k.classes) (nodes : after.nodes = k.nodes) :
    after.CreatesNode cls devno answer := by
  refine ⟨creates.1, ?_, nodes ▸ creates.2.2⟩
  rw [liveClass_of_classes classes]
  exact creates.2.1

/-- The node a class has under a device number. -/
def nodeIn (k : Kernel Dev Ptr) (cls : ClassPtr) (devno : DevT) : Option (Node Dev) :=
  (k.nodes devno).filter (·.cls = cls)

def deviceDestroy (k : Kernel Dev Ptr) (cls : ClassPtr) (devno : DevT) : Kernel Dev Ptr :=
  let found := k.nodeIn cls devno
  { k with
    nodes := if found.isSome then Function.update k.nodes devno none else k.nodes
    log := k.log ++ [.deviceDestroy cls (k.liveClass cls) devno (found.map (·.owner))] }

/-- What `class_create` may return; Linux answers a failure with an ERR_PTR. -/
inductive ClassAnswer where
  | null
  | errPtr
  | created
  deriving DecidableEq, Repr

def classCreate (k : Kernel Dev Ptr) : ClassAnswer → ClassPtr × Kernel Dev Ptr
  | .null => (.null, k)
  | .errPtr => (.errPtr, k)
  | .created => (.valid k.nextClass,
      { k with classes := k.nextClass :: k.classes, nextClass := k.nextClass + 1 })

def classDestroy (k : Kernel Dev Ptr) (cls : ClassPtr) : Kernel Dev Ptr :=
  { k with
    classes := k.classes.filter (fun serial => .valid serial ≠ cls)
    log := k.log ++ [.classDestroy cls (k.liveClass cls)] }

/-- The `count` numbers from `first` on. -/
def devRange (first : DevT) (count : Nat) : List DevT :=
  (List.range count).map fun i => { first with minor := first.minor + i }

/-- `alloc_chrdev_region` with base minor 0: the kernel picks a major, or refuses. -/
def allocChrdevRegion (k : Kernel Dev Ptr) (count : Nat) (answer : Answer) (major : Nat) :
    Int × DevT × Kernel Dev Ptr :=
  let first : DevT := { major, minor := 0 }
  match answer with
  | .ok => (0, first, { k with chrdevs := k.chrdevs ++ devRange first count })
  | .error _ => (answer.code, first, k)

theorem allocChrdevRegion_refused {answer : Answer} (refused : answer ≠ .ok) (k : Kernel Dev Ptr)
    (count major : Nat) :
    k.allocChrdevRegion count answer major = (answer.code, ⟨major, 0⟩, k) := by
  cases answer with
  | ok => exact absurd rfl refused
  | error errno => rfl

def unregisterChrdevRegion (k : Kernel Dev Ptr) (first : DevT) (count : Nat) : Kernel Dev Ptr :=
  { k with chrdevs := k.chrdevs.filter (· ∉ devRange first count) }

end Kernel

end LddLearn.Linux
