import LddLearn.Ssxa.Frame
import LddLearn.Ssxa.Layout

/-!
# reset_io

`reset_io` means to clear the request window of every worker with `iowrite32_rep`, which
stores word after word to one and the same address, from an array nobody has initialised. So
of each window the first word is written 64 times, and ends as the last word of the array; the
rest of the window is left alone. The tags are freed as meant.
-/

set_option autoImplicit false

namespace LddLearn.PciFake
open LddLearn.Linux LddLearn.Library.Memory LddLearn.Ssxa

/-! ## The function -/

/-- The memory behind the host's pointers. -/
abbrev IoMemory := Nat → BitVec 8

/-- `iowrite32(value, addr)`: the bus is little-endian. -/
def iowrite32 (memory : IoMemory) (value : BitVec 32) (addr : ULong) : IoMemory :=
  store memory addr.toNat (ByteOrder.littleEndian.bytes32 value)

/-- `iowrite32_rep(addr, buf, count)`: words of `buf`, one after another, to the one address. -/
def iowrite32Rep (memory : IoMemory) (addr : ULong) (buf : List (BitVec 8)) (count : Nat) :
    IoMemory :=
  storeRep 4 memory addr.toNat buf count

section Function
variable {Dev : Type} (context : DriverContext Dev) (data : Fin 256 → BitVec 8)

/-- One round of the loop. -/
def resetWorker (memory : IoMemory) (index : Fin MAX_CHIP_IN_DEVICE) : IoMemory :=
  let worker := context.workers index
  iowrite32 (iowrite32Rep memory worker.buffPtr (List.ofFn data) 64) TAG_FREE worker.tagPtr

/-- `reset_io`; `data` is what the kernel stack holds at the array's place. -/
def resetIo (memory : IoMemory) : IoMemory :=
  (List.finRange MAX_CHIP_IN_DEVICE).foldl (resetWorker context data) memory

end Function

/-! ## Property and condition -/

section Statements
variable {Dev : Type}

/-- Every window is all zero and every tag `TAG_FREE`; the rest of the mapping is as before. -/
structure ResetDone (m : Mapping Dev) (context : DriverContext Dev) (before after : IoMemory) :
    Prop where
  windows : ∀ index, ∀ a ∈ (context.workers index).window, after a = 0
  tags : ∀ index, ∀ (i : Nat) (inside : i < 4), after ((context.workers index).tagPtr.toNat + i) =
    (ByteOrder.littleEndian.bytes32 TAG_FREE)[i]
  others : ∀ a ∈ range m.addr.toNat m.size.toNat,
    (∀ index, a ∉ (context.workers index).window ∧ a ∉ (context.workers index).tagWord) →
    after a = before a

/-- The last word of the stack array is zero, and so is every window behind its first word. -/
structure ZeroAlready (context : DriverContext Dev) (data : Fin 256 → BitVec 8)
    (before : IoMemory) : Prop where
  stack : ∀ i : Fin 4, data ⟨252 + i.val, by omega⟩ = 0
  windows : ∀ index, ∀ i, 4 ≤ i → i < protocolSize →
    before ((context.workers index).buffPtr.toNat + i) = 0

end Statements

variable {Dev : Type} {m : Mapping Dev} {context : DriverContext Dev}
  {data other : Fin 256 → BitVec 8} {memory : IoMemory} {index : Fin MAX_CHIP_IN_DEVICE} {a : Nat}

/-! ## What one round writes -/

/-- The last word of the array. -/
def lastWord (data : Fin 256 → BitVec 8) : List (BitVec 8) :=
  List.ofFn fun i : Fin 4 => data ⟨252 + i.val, by omega⟩

theorem iowrite32Rep_last (memory : IoMemory) (addr : ULong) (data : Fin 256 → BitVec 8) :
    iowrite32Rep memory addr (List.ofFn data) 64 = store memory addr.toNat (lastWord data) := by
  have words : (List.ofFn data).length = (63 + 1) * 4 := List.length_ofFn ..
  have last : (List.ofFn data).drop (63 * 4) = lastWord data := by
    unfold lastWord
    apply List.ext_getElem
    · rw [List.length_drop, List.length_ofFn, List.length_ofFn]
    · intro i _ _
      rw [List.getElem_drop, List.getElem_ofFn, List.getElem_ofFn]
  rw [← last]
  exact storeRep_last words

theorem resetWorker_eq (memory : IoMemory) (index : Fin MAX_CHIP_IN_DEVICE) :
    resetWorker context data memory index =
      store (store memory (context.workers index).buffPtr.toNat (lastWord data))
        (context.workers index).tagPtr.toNat (ByteOrder.littleEndian.bytes32 TAG_FREE) := by
  rw [resetWorker, iowrite32Rep_last, iowrite32]

/-- What a round writes: the first word of the window, and the tag. -/
def touched (context : DriverContext Dev) (index : Fin MAX_CHIP_IN_DEVICE) : Set Nat :=
  range (context.workers index).buffPtr.toNat 4 ∪ (context.workers index).tagWord

theorem resetWorker_outside (outside : a ∉ touched context index) :
    resetWorker context data memory index a = memory a := by
  rw [touched, Set.mem_union, not_or] at outside
  rw [resetWorker_eq, store_outside outside.2, store_outside]
  rw [lastWord, List.length_ofFn]
  exact outside.1

theorem resetWorker_first (i : Fin 4)
    (apart : (context.workers index).buffPtr.toNat + i.val ∉ (context.workers index).tagWord) :
    resetWorker context data memory index ((context.workers index).buffPtr.toNat + i.val) =
      data ⟨252 + i.val, by omega⟩ := by
  have inside : i.val < (lastWord data).length := by
    rw [lastWord, List.length_ofFn]
    exact i.isLt
  rw [resetWorker_eq, store_outside apart, store_inside inside]
  exact List.getElem_ofFn ..

theorem resetWorker_tag {i : Nat} (inside : i < 4) :
    resetWorker context data memory index ((context.workers index).tagPtr.toNat + i) =
      (ByteOrder.littleEndian.bytes32 TAG_FREE)[i] := by
  rw [resetWorker_eq]
  exact store_inside inside

/-! ## The whole loop -/

theorem resetIo_outside (outside : ∀ index, a ∉ touched context index) :
    resetIo context data memory a = memory a :=
  foldl_outside (fun _ _ _ => resetWorker_outside) _ memory fun index _ => outside index

theorem mem_window_first (i : Fin 4) :
    (context.workers index).buffPtr.toNat + i.val ∈ (context.workers index).window := by
  rw [ChipWorker.window, mem_range]
  unfold protocolSize
  omega

theorem touched_subset (context : DriverContext Dev) (index : Fin MAX_CHIP_IN_DEVICE) :
    touched context index ⊆
      (context.workers index).window ∪ (context.workers index).tagWord := by
  apply Set.union_subset_union_left
  apply range_subset_range
  · omega
  · unfold protocolSize
    omega

section Placed
variable (placed : PlacedIn m context)
include placed

theorem touched_disjoint {i j : Fin MAX_CHIP_IN_DEVICE} (different : i ≠ j) :
    Disjoint (touched context i) (touched context j) := by
  apply Disjoint.mono (touched_subset context i) (touched_subset context j)
  rw [Set.disjoint_union_left, Set.disjoint_union_right, Set.disjoint_union_right]
  exact ⟨⟨placed.windows_disjoint different, placed.kinds_disjoint i j⟩,
    (placed.kinds_disjoint j i).symm, placed.tagWords_disjoint different⟩

theorem first_notMem_tagWord (index other : Fin MAX_CHIP_IN_DEVICE) (i : Fin 4) :
    (context.workers index).buffPtr.toNat + i.val ∉ (context.workers other).tagWord :=
  Set.disjoint_left.mp (placed.kinds_disjoint index other) (mem_window_first i)

/-- What a round leaves where it writes does not depend on what was there. -/
theorem resetWorker_inside (memory : IoMemory) (index : Fin MAX_CHIP_IN_DEVICE) (a : Nat)
    (inside : a ∈ touched context index) :
    resetWorker context data memory index a = resetWorker context data (fun _ => 0) index a := by
  rcases inside with first | tag
  · obtain ⟨low, high⟩ := mem_range.mp first
    obtain ⟨i, rfl⟩ : ∃ i : Fin 4, a = (context.workers index).buffPtr.toNat + i.val :=
      ⟨⟨a - (context.workers index).buffPtr.toNat, by omega⟩, by dsimp only; omega⟩
    have apart := first_notMem_tagWord placed index index i
    rw [resetWorker_first i apart, resetWorker_first i apart]
  · obtain ⟨low, high⟩ := mem_range.mp tag
    obtain ⟨i, small, rfl⟩ : ∃ i, i < 4 ∧ a = (context.workers index).tagPtr.toNat + i :=
      ⟨a - (context.workers index).tagPtr.toNat, by omega, by omega⟩
    rw [resetWorker_tag small, resetWorker_tag small]

theorem resetIo_inside (inside : a ∈ touched context index) :
    resetIo context data memory a = resetWorker context data (fun _ => 0) index a :=
  foldl_inside (fun _ _ _ => resetWorker_outside) (resetWorker_inside placed)
    (fun _ _ => touched_disjoint placed) (List.mem_finRange index) inside memory

/-- Each window begins with the last word of the array. -/
theorem resetIo_first (i : Fin 4) :
    resetIo context data memory ((context.workers index).buffPtr.toNat + i.val) =
      data ⟨252 + i.val, by omega⟩ := by
  have inside : (context.workers index).buffPtr.toNat + i.val ∈ touched context index := by
    refine Or.inl ?_
    rw [mem_range]
    omega
  rw [resetIo_inside placed inside]
  exact resetWorker_first i (first_notMem_tagWord placed index index i)

theorem resetIo_tag {i : Nat} (small : i < 4) :
    resetIo context data memory ((context.workers index).tagPtr.toNat + i) =
      (ByteOrder.littleEndian.bytes32 TAG_FREE)[i] := by
  have inside : (context.workers index).tagPtr.toNat + i ∈ touched context index := by
    refine Or.inr ?_
    rw [ChipWorker.tagWord, mem_range]
    omega
  rw [resetIo_inside placed inside]
  exact resetWorker_tag small

/-- Behind its first word a window is left alone. -/
theorem resetIo_rest {i : Nat} (behind : 4 ≤ i) (inside : i < protocolSize) :
    resetIo context data memory ((context.workers index).buffPtr.toNat + i) =
      memory ((context.workers index).buffPtr.toNat + i) := by
  have member : (context.workers index).buffPtr.toNat + i ∈ (context.workers index).window := by
    rw [ChipWorker.window, mem_range]
    omega
  refine resetIo_outside fun other => ?_
  rw [touched, Set.mem_union, not_or]
  refine ⟨?_, Set.disjoint_left.mp (placed.kinds_disjoint index other) member⟩
  by_cases same : index = other
  · rw [← same, mem_range]
    omega
  · intro first
    have inWindow : (context.workers index).buffPtr.toNat + i ∈ (context.workers other).window := by
      rw [ChipWorker.window, mem_range]
      rw [mem_range] at first
      unfold protocolSize
      omega
    exact Set.disjoint_left.mp (placed.windows_disjoint same) member inWindow

end Placed

/-! ## The statement -/

theorem zeroAlready_of_done (placed : PlacedIn m context)
    (done : ResetDone m context memory (resetIo context data memory)) :
    ZeroAlready context data memory where
  stack := by
    intro i
    have cleared := done.windows ⟨0, by decide⟩ _ (mem_window_first i)
    rwa [resetIo_first placed] at cleared
  windows := by
    intro index i behind inside
    have member : (context.workers index).buffPtr.toNat + i ∈ (context.workers index).window := by
      rw [ChipWorker.window, mem_range]
      omega
    have cleared := done.windows index _ member
    rwa [resetIo_rest placed behind inside] at cleared

theorem done_of_zeroAlready (placed : PlacedIn m context) (zero : ZeroAlready context data memory) :
    ResetDone m context memory (resetIo context data memory) where
  windows := by
    intro index a member
    obtain ⟨low, high⟩ := mem_range.mp member
    obtain ⟨i, inside, rfl⟩ : ∃ i, i < protocolSize ∧ a = (context.workers index).buffPtr.toNat + i :=
      ⟨a - (context.workers index).buffPtr.toNat, by omega, by omega⟩
    by_cases first : i < 4
    · exact (resetIo_first placed ⟨i, first⟩).trans (zero.stack ⟨i, first⟩)
    · have behind : 4 ≤ i := Nat.le_of_not_lt first
      rw [resetIo_rest placed behind inside]
      exact zero.windows index i behind inside
  tags := fun _ _ small => resetIo_tag placed small
  others := by
    intro a _ apart
    refine resetIo_outside fun index inside => ?_
    rcases touched_subset context index inside with window | tag
    · exact (apart index).1 window
    · exact (apart index).2 tag

/-- With the workers in a mapping of 4160 bytes or more: the windows are cleared, the tags
freed and the rest left alone exactly when the last word of the array and the windows behind
their first words are zero beforehand; and the outcome always depends on the array. -/
theorem reset_done_iff_zero_already (placed : PlacedIn m context) (data : Fin 256 → BitVec 8)
    (before : IoMemory) :
    (ResetDone m context before (resetIo context data before) ↔ ZeroAlready context data before) ∧
      ¬ ∀ other : Fin 256 → BitVec 8, resetIo context other before = resetIo context data before := by
  refine ⟨⟨zeroAlready_of_done placed, done_of_zeroAlready placed⟩, fun same => ?_⟩
  have first := congrFun (same fun i => data i + 1)
    ((context.workers ⟨0, by decide⟩).buffPtr.toNat + (0 : Fin 4).val)
  rw [resetIo_first placed, resetIo_first placed] at first
  have different (byte : BitVec 8) : byte + 1 ≠ byte := by
    intro equal
    have := byte.isLt
    bv_omega
  exact different _ first

/-- A mapping of 8192 bytes and a context with its workers in it. -/
def sampleMapping : Mapping Nat where
  serial := 0
  owner := 0
  phys := 0xfebf0000
  addr := 0xffffc90000000000
  size := 8192
  valid := by decide

def sampleContext : DriverContext Nat :=
  DriverContext.withWorkers { DriverContext.zero with
    wBuffer := ⟨sampleMapping.addr, 4096⟩
    sBuffer := ⟨sampleMapping.addr + 4096, 4096⟩ }

theorem sampleContext_placed : PlacedIn sampleMapping sampleContext :=
  ⟨by decide, rfl, rfl, rfl⟩

theorem reset_done_iff_zero_already_sample :
    (ResetDone sampleMapping sampleContext (fun _ => 0) (resetIo sampleContext (fun _ => 0xff) fun _ => 0) ↔
      ZeroAlready sampleContext (fun _ => 0xff) fun _ => 0) ∧
      ¬ ∀ other : Fin 256 → BitVec 8,
        resetIo sampleContext other (fun _ => 0) = resetIo sampleContext (fun _ => 0xff) fun _ => 0 :=
  reset_done_iff_zero_already sampleContext_placed (fun _ => 0xff) fun _ => 0

/-- Windows that were zero begin with what the stack held. -/
theorem stack_in_windows :
    ¬ ∀ (m : Mapping Nat) (context : DriverContext Nat) (data : Fin 256 → BitVec 8)
      (before : IoMemory), PlacedIn m context →
      ResetDone m context before (resetIo context data before) := by
  intro claim
  have done := claim sampleMapping sampleContext (fun _ => 0xff) (fun _ => 0) sampleContext_placed
  have cleared := done.windows ⟨0, by decide⟩ _ (mem_window_first 0)
  rw [resetIo_first sampleContext_placed] at cleared
  exact absurd cleared (by decide)

end LddLearn.PciFake
