import LddLearn.Library.Memory
import LddLearn.Ssxa.Holding

/-!
# The buffers inside the mapping

`hold_pci_resources` splits the mapping at offset 4096: sixteen request windows of 256 bytes
fill the part in front, sixteen tag words start the part behind. Neither it nor the function
that places the workers looks at the size the hardware reports. The layout takes 4160 bytes;
a mapping below 4096 makes the size of the second part wrap, and one between leaves tag
words outside.
-/

set_option autoImplicit false

namespace LddLearn.Ssxa
open LddLearn.Linux LddLearn.Library LddLearn.Library.Memory

/-! ## Property -/

section Statements
variable {Dev Ptr : Type}

def DriverBuffer.addresses (buffer : DriverBuffer) : Set Nat :=
  range buffer.addr.toNat buffer.size.toNat

def ChipWorker.window (worker : ChipWorker) : Set Nat :=
  range worker.buffPtr.toNat protocolSize

def ChipWorker.tagWord (worker : ChipWorker) : Set Nat := range worker.tagPtr.toNat 4

/-- The context once its workers are placed in its buffers. -/
def DriverContext.withWorkers (context : DriverContext Dev) : DriverContext Dev :=
  { context with workers := initWorkers context.wBuffer context.sBuffer }

/-- The two buffers make up the mapping and do not meet; windows and tag words lie in their
buffer and in the mapping, and no two of the 32 meet. -/
structure LayoutSound (context : DriverContext Dev) (k : Kernel Dev Ptr) : Prop where
  buffersApart : Disjoint context.wBuffer.addresses context.sBuffer.addresses
  sizes : context.wBuffer.size.toNat + context.sBuffer.size.toNat = context.baseAddr.size.toNat
  windows : ∀ index, (context.workers index).window ⊆ context.wBuffer.addresses
  tagWords : ∀ index, (context.workers index).tagWord ⊆ context.sBuffer.addresses
  windowsApart : ∀ i j, i ≠ j →
    Disjoint (context.workers i).window (context.workers j).window
  tagWordsApart : ∀ i j, i ≠ j →
    Disjoint (context.workers i).tagWord (context.workers j).tagWord
  kindsApart : ∀ i j, Disjoint (context.workers i).window (context.workers j).tagWord
  mapped : ∃ m, k.mappingAt context.baseAddr.addr = some m ∧ m.size = context.baseAddr.size ∧
    ∀ index, (context.workers index).window ⊆ range m.addr.toNat m.size.toNat ∧
      (context.workers index).tagWord ⊆ range m.addr.toNat m.size.toNat

/-- What sixteen windows and sixteen tag words take. -/
def layoutSize : Nat := 4160

end Statements

variable {Dev Ptr : Type}

/-! ## Where the workers are -/

/-- The workers are placed in the two parts of a mapping that is large enough for them. -/
structure PlacedIn (m : Mapping Dev) (context : DriverContext Dev) : Prop where
  enough : layoutSize ≤ m.size.toNat
  workers : context.workers = initWorkers context.wBuffer context.sBuffer
  requests : context.wBuffer.addr = m.addr
  tags : context.sBuffer.addr = m.addr + 4096

section Workers
variable {m : Mapping Dev} {context : DriverContext Dev} (index : Fin MAX_CHIP_IN_DEVICE)

theorem PlacedIn.toNat_buffPtr (placed : PlacedIn m context) :
    (context.workers index).buffPtr.toNat = m.addr.toNat + index.val * protocolSize := by
  have chip : index.val < 16 := index.isLt
  have enough := placed.enough
  unfold layoutSize at enough
  have inside : index.val * protocolSize < m.size.toNat := by
    unfold protocolSize
    omega
  rw [placed.workers, initWorkers, placed.requests, m.toNat_offset inside]

theorem PlacedIn.toNat_tagPtr (placed : PlacedIn m context) :
    (context.workers index).tagPtr.toNat = m.addr.toNat + 4096 + index.val * 4 := by
  have chip : index.val < 16 := index.isLt
  have enough := placed.enough
  unfold layoutSize at enough
  have inside : 4096 + index.val * 4 < m.size.toNat := by omega
  rw [placed.workers, initWorkers, placed.tags, tags_offset, m.toNat_offset inside, Nat.add_assoc]

/-- The windows are cells of a row that fills the first part. -/
theorem PlacedIn.window (placed : PlacedIn m context) :
    (context.workers index).window =
      range (m.addr.toNat + index.val * protocolSize) protocolSize := by
  rw [ChipWorker.window, placed.toNat_buffPtr]

theorem PlacedIn.tagWord (placed : PlacedIn m context) :
    (context.workers index).tagWord = range (m.addr.toNat + 4096 + index.val * 4) 4 := by
  rw [ChipWorker.tagWord, placed.toNat_tagPtr]

theorem PlacedIn.window_subset (placed : PlacedIn m context) :
    (context.workers index).window ⊆ range m.addr.toNat 4096 :=
  placed.window index ▸ cell_subset m.addr.toNat protocolSize index.isLt

theorem PlacedIn.tagWord_subset (placed : PlacedIn m context) :
    (context.workers index).tagWord ⊆ range (m.addr.toNat + 4096) (m.size.toNat - 4096) := by
  have enough := placed.enough
  unfold layoutSize at enough
  rw [placed.tagWord]
  apply (cell_subset (m.addr.toNat + 4096) 4 index.isLt).trans
  apply range_subset_range
  · omega
  · unfold MAX_CHIP_IN_DEVICE
    omega

variable {i j : Fin MAX_CHIP_IN_DEVICE}

theorem PlacedIn.windows_disjoint (placed : PlacedIn m context) (different : i ≠ j) :
    Disjoint (context.workers i).window (context.workers j).window := by
  rw [placed.window, placed.window]
  exact cells_disjoint m.addr.toNat protocolSize fun same => different (Fin.ext same)

theorem PlacedIn.tagWords_disjoint (placed : PlacedIn m context) (different : i ≠ j) :
    Disjoint (context.workers i).tagWord (context.workers j).tagWord := by
  rw [placed.tagWord, placed.tagWord]
  exact cells_disjoint (m.addr.toNat + 4096) 4 fun same => different (Fin.ext same)

theorem parts_disjoint (m : Mapping Dev) :
    Disjoint (range m.addr.toNat 4096) (range (m.addr.toNat + 4096) (m.size.toNat - 4096)) :=
  range_disjoint (Or.inl (le_refl _))

theorem PlacedIn.kinds_disjoint (placed : PlacedIn m context) (i j : Fin MAX_CHIP_IN_DEVICE) :
    Disjoint (context.workers i).window (context.workers j).tagWord :=
  (parts_disjoint m).mono (placed.window_subset i) (placed.tagWord_subset j)

end Workers

/-! ## The layout in a mapping -/

section Split
variable {m : Mapping Dev} {context : DriverContext Dev} {k : Kernel Dev Ptr}

/-- Where the mapping is large enough, the buffers are the two parts of it. -/
theorem buffers_of_split (enough : layoutSize ≤ m.size.toNat)
    (wBuffer : context.wBuffer = ⟨m.addr, 4096⟩)
    (sBuffer : context.sBuffer = ⟨m.addr + 4096, m.size - 4096⟩) :
    context.wBuffer.addresses = range m.addr.toNat 4096 ∧
      context.sBuffer.addresses = range (m.addr.toNat + 4096) (m.size.toNat - 4096) ∧
      context.sBuffer.size.toNat = m.size.toNat - 4096 := by
  unfold layoutSize at enough
  have fits := m.valid.2.2
  have literal : (4096 : ULong).toNat = 4096 := rfl
  have start : (m.addr + 4096).toNat = m.addr.toNat + 4096 := by
    rw [BitVec.toNat_add, literal]
    omega
  have rest : (m.size - 4096).toNat = m.size.toNat - 4096 := by
    rw [BitVec.toNat_sub_of_le, literal]
    rw [BitVec.le_def, literal]
    omega
  rw [wBuffer, sBuffer, DriverBuffer.addresses, DriverBuffer.addresses, start, rest]
  exact ⟨rfl, rfl, rfl⟩

theorem layoutSound_of_enough (found : k.mappingAt context.baseAddr.addr = some m)
    (size : m.size = context.baseAddr.size) (wBuffer : context.wBuffer = ⟨m.addr, 4096⟩)
    (sBuffer : context.sBuffer = ⟨m.addr + 4096, m.size - 4096⟩)
    (enough : layoutSize ≤ m.size.toNat) : LayoutSound context.withWorkers k := by
  obtain ⟨requests, tags, rest⟩ := buffers_of_split enough wBuffer sBuffer
  have requestsAt : context.wBuffer.addr = m.addr := by rw [wBuffer]
  have tagsAt : context.sBuffer.addr = m.addr + 4096 := by rw [sBuffer]
  have placed : PlacedIn m context.withWorkers := ⟨enough, rfl, requestsAt, tagsAt⟩
  unfold layoutSize at enough
  refine ⟨?_, ?_, ?_, ?_, fun _ _ => placed.windows_disjoint, fun _ _ => placed.tagWords_disjoint,
    placed.kinds_disjoint, m, found, size, ?_⟩
  · change Disjoint context.wBuffer.addresses context.sBuffer.addresses
    rw [requests, tags]
    exact parts_disjoint m
  · change context.wBuffer.size.toNat + context.sBuffer.size.toNat = context.baseAddr.size.toNat
    rw [rest, wBuffer, ← size]
    change 4096 + (m.size.toNat - 4096) = m.size.toNat
    omega
  · exact fun index => requests ▸ placed.window_subset index
  · exact fun index => tags ▸ placed.tagWord_subset index
  · intro index
    constructor
    · apply (placed.window_subset index).trans
      apply range_subset_range <;> omega
    · apply (placed.tagWord_subset index).trans
      apply range_subset_range <;> omega

/-- Below 4096 bytes the sizes of the buffers do not add up, below 4160 a tag word is outside. -/
theorem enough_of_layoutSound (size : m.size = context.baseAddr.size)
    (wBuffer : context.wBuffer = ⟨m.addr, 4096⟩)
    (sBuffer : context.sBuffer = ⟨m.addr + 4096, m.size - 4096⟩)
    (sound : LayoutSound context.withWorkers k) : layoutSize ≤ m.size.toNat := by
  have literal : (4096 : ULong).toNat = 4096 := rfl
  have sizes : (4096 : ULong).toNat + (m.size - 4096).toNat = m.size.toNat := by
    have sum : context.wBuffer.size.toNat + context.sBuffer.size.toNat =
        context.baseAddr.size.toNat := sound.sizes
    rwa [wBuffer, sBuffer, ← size] at sum
  have last := sound.tagWords ⟨15, by decide⟩
  have tagAt : (context.withWorkers.workers ⟨15, by decide⟩).tagPtr = context.sBuffer.addr + 60 :=
    rfl
  have sixty : (60 : ULong).toNat = 60 := rfl
  have inside := (range_subset_iff (show 0 < 4 by decide)).mp last
  rw [tagAt, BitVec.toNat_add, sixty] at inside
  have span : context.sBuffer.size.toNat = m.size.toNat - 4096 := by
    rw [sBuffer]
    change (m.size - 4096).toNat = _
    omega
  change context.sBuffer.addr.toNat ≤ _ ∧ _ ≤ context.sBuffer.addr.toNat + context.sBuffer.size.toNat
    at inside
  have width := context.sBuffer.addr.isLt
  unfold layoutSize
  omega

end Split

/-! ## The statement -/

section Held
variable [DecidableEq Dev] {name : String} {hw : PciDev} {pcidev : Dev} {answers : HoldAnswers}
  {driverContext : DriverContext Dev} {k : Kernel Dev Ptr}

/-- Whenever the call returns 0 the layout is sound, exactly when a device whose regions are
granted is mapped, with 4160 bytes at least. -/
theorem layout_sound_iff_enough :
    ((holdPciResources name hw pcidev answers driverContext k).1 = 0 →
        LayoutSound (holdPciResources name hw pcidev answers driverContext k).2.1.withWorkers
          (holdPciResources name hw pcidev answers driverContext k).2.2) ↔
      (answers.regions = .ok →
        k.FreshRange answers.ioremap (memBarSize hw driverContext.devResource.memSize) ∧
          layoutSize ≤ (memBarSize hw driverContext.devResource.memSize).toNat) := by
  rw [hold_code, Answer.code_eq_zero, ← scanBars_memSize]
  refine forall_congr' fun granted => ?_
  by_cases fresh : k.FreshRange answers.ioremap (scanBars hw driverContext.devResource).memSize
  · rw [hold_mapped granted fresh, and_iff_right fresh]
    constructor
    · exact enough_of_layoutSound (m := heldMapping hw pcidev answers driverContext k fresh) rfl rfl rfl
    · refine layoutSound_of_enough (m := heldMapping hw pcidev answers driverContext k fresh) ?_ rfl rfl rfl
      simp [Kernel.mappingAt, heldMapping, mappedContext, remappedContext]
  · rw [hold_unmapped granted fresh]
    refine iff_of_false ?_ fun both => fresh both.1
    intro sound
    obtain ⟨m, found, _⟩ := sound.mapped
    exact m.valid.1 (Kernel.addr_of_mappingAt found).2

/-- A card with 2048 bytes of memory gets a first buffer of twice that, and a second of nearly
`2 ^ 64` bytes. -/
theorem buffers_exceed_mapping :
    ¬ ∀ (hw : PciDev) (answers : HoldAnswers) (context : DriverContext Nat) (k : Kernel Nat Nat),
      let result := holdPciResources "ssxa-pci" hw 0 answers context k
      result.1 = 0 → LayoutSound result.2.1.withWorkers result.2.2 := by
  intro claim
  have sizes := (claim (bareCard 256 2048) ⟨.ok, 0xffffc90000000000⟩ (initDriverContexts 0 8 0)
    .boot rfl).sizes
  exact absurd sizes (by decide +kernel)

end Held

end LddLearn.Ssxa
