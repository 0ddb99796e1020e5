import LddLearn.Linux.Kernel

/-!
# The driver context of the SSX10A drivers

The structures pcidev-02 (`common.h`) and pci-fake declare in the same words, and
`init_driver_contexts`, which fills an array of them. The embedded `cdev` has no
field here: what is registered for it is kernel state, under the context it is
embedded in.
-/

set_option autoImplicit false

namespace LddLearn.Ssxa
open LddLearn.Linux

def MAX_CHIP_IN_DEVICE : Nat := 16

def TAG_WRITE : BitVec 32 := 0xAAAAAAAA
def TAG_FREE : BitVec 32 := 0x00000000
def TAG_RETURNED : BitVec 32 := 0x3C3C3C3C

/-- `sizeof(struct ssxa_protocol_t)`, packed: 4 + 1 + 1 + 250. -/
def protocolSize : Nat := 256

/-- A `struct driver_buffer_t`; address 0 is NULL. -/
structure DriverBuffer where
  addr : ULong
  size : ULong
  deriving DecidableEq, Repr

structure DeviceIoAddr where
  wPort : ULong
  rPort : ULong
  cPort : ULong
  sPort : ULong
  memAddr : ULong
  memSize : ULong
  deriving DecidableEq, Repr

structure ChipWorker where
  id : BitVec 8
  buffPtr : ULong
  tagPtr : ULong
  deriving DecidableEq, Repr

structure DriverContext (Dev : Type) where
  minor : Int
  pciDev : Option Dev
  devResource : DeviceIoAddr
  workers : Fin MAX_CHIP_IN_DEVICE → ChipWorker
  baseAddr : DriverBuffer
  wBuffer : DriverBuffer
  sBuffer : DriverBuffer
  irq : BitVec 8

def DriverBuffer.zero : DriverBuffer := ⟨0, 0⟩

/-- A context after `memset` to zero. -/
def DriverContext.zero {Dev : Type} : DriverContext Dev where
  minor := 0
  pciDev := none
  devResource := ⟨0, 0, 0, 0, 0, 0⟩
  workers := fun _ => ⟨0, 0, 0⟩
  baseAddr := .zero
  wBuffer := .zero
  sBuffer := .zero
  irq := 0

/-- `init_driver_contexts` on a whole array: both drivers pass their `MAX_DEVICE`
as `count`, so `BUG_ON(count > MAX_DEVICE)` is not reached. -/
def initDriverContexts {Dev : Type} (firstMinor : Int) (count : Nat) :
    Fin count → DriverContext Dev :=
  fun i => { DriverContext.zero with
    minor := firstMinor + i.val
    workers := fun j => { id := BitVec.ofNat 8 j.val, buffPtr := 0, tagPtr := 0 } }

theorem initDriverContexts_minor_inj {Dev : Type} (firstMinor : Int) (count : Nat)
    (i j : Fin count)
    (same : (initDriverContexts firstMinor count i : DriverContext Dev).minor =
      (initDriverContexts firstMinor count j : DriverContext Dev).minor) : i = j := by
  simp only [initDriverContexts] at same
  omega

/-- The worker table `mount_chr_dev` (pcidev-02) and `init_workers` (pci-fake)
compute from the two buffers, index by index. -/
def initWorkers (wBuffer sBuffer : DriverBuffer) : Fin MAX_CHIP_IN_DEVICE → ChipWorker :=
  fun index => {
    id := BitVec.ofNat 8 index.val
    buffPtr := wBuffer.addr + BitVec.ofNat 64 (index.val * protocolSize)
    tagPtr := sBuffer.addr + BitVec.ofNat 64 (index.val * 4) }

/-- The least mapping size with every worker pointer inside: the last tag word starts
60 bytes behind the 4096 of the request buffers. -/
def workersSpan : Nat := 4157

/-- Both pointers of every worker lie in the mapping. -/
def WorkersIn {Dev : Type} (m : Mapping Dev) (workers : Fin MAX_CHIP_IN_DEVICE → ChipWorker) : Prop :=
  ∀ index, m.Covers (workers index).buffPtr ∧ m.Covers (workers index).tagPtr

/-- The tag words are counted from behind the request buffers. -/
theorem tags_offset (base : ULong) (offset : Nat) :
    base + 4096 + BitVec.ofNat 64 offset = base + BitVec.ofNat 64 (4096 + offset) := by
  rw [BitVec.ofNat_add, BitVec.add_assoc]
  rfl

theorem initWorkers_inside {Dev : Type} (m : Mapping Dev) (span : workersSpan ≤ m.size.toNat)
    {wBuffer sBuffer : DriverBuffer} (requests : wBuffer.addr = m.addr)
    (tags : sBuffer.addr = m.addr + 4096) : WorkersIn m (initWorkers wBuffer sBuffer) := by
  intro index
  have chip : index.val < 16 := index.isLt
  unfold workersSpan at span
  unfold initWorkers protocolSize
  dsimp only
  constructor
  · rw [requests]
    exact m.covers_offset (by omega)
  · rw [tags, tags_offset]
    exact m.covers_offset (by omega)

end LddLearn.Ssxa
