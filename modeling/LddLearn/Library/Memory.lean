import Mathlib.Order.CompletePartialOrder
import Mathlib.Order.Interval.Set.Disjoint

/-!
# Byte memory

Memory is a function from addresses, natural numbers, to bytes. A `range` is a stretch of
addresses; cells of one width in a row are ranges that do not meet and fill a range together.
A `store` writes a string of bytes from an address on, and `storeRep` writes string after
string to one and the same address, of which only the last is left. `foldl_outside` and
`foldl_inside` say what a sequence of updates leaves when each has a part of the memory to
itself.
-/

set_option autoImplicit false

namespace LddLearn.Library.Memory

/-! ## Ranges -/

/-- The addresses of `size` bytes from `start` on. -/
def range (start size : Nat) : Set Nat := Set.Ico start (start + size)

variable {start size other length width count i j a : Nat}

@[simp] theorem mem_range : a ∈ range start size ↔ start ≤ a ∧ a < start + size := Set.mem_Ico

theorem range_subset_range (low : other ≤ start) (high : start + size ≤ other + length) :
    range start size ⊆ range other length := Set.Ico_subset_Ico low high

theorem range_subset_iff (nonempty : 0 < size) :
    range start size ⊆ range other length ↔ other ≤ start ∧ start + size ≤ other + length :=
  Set.Ico_subset_Ico_iff (by omega)

theorem range_disjoint (apart : start + size ≤ other ∨ other + length ≤ start) :
    Disjoint (range start size) (range other length) := by
  rw [Set.disjoint_left]
  simp only [mem_range]
  omega

/-- Two cells of a row. -/
theorem cells_disjoint (start width : Nat) (apart : i ≠ j) :
    Disjoint (range (start + i * width) width) (range (start + j * width) width) := by
  apply range_disjoint
  rcases Nat.lt_or_gt_of_ne apart with before | behind
  · have := Nat.mul_le_mul_right width (Nat.succ_le_of_lt before)
    rw [Nat.succ_mul] at this
    omega
  · have := Nat.mul_le_mul_right width (Nat.succ_le_of_lt behind)
    rw [Nat.succ_mul] at this
    omega

theorem cell_subset (start width : Nat) (inside : i < count) :
    range (start + i * width) width ⊆ range start (count * width) := by
  apply range_subset_range
  · omega
  · have := Nat.mul_le_mul_right width (Nat.succ_le_of_lt inside)
    rw [Nat.succ_mul] at this
    omega

/-! ## Stores -/

section Store
variable {Byte : Type} {memory : Nat → Byte} {bytes first second : List Byte}

/-- The bytes are written from `start` on. -/
def store (memory : Nat → Byte) (start : Nat) (bytes : List Byte) : Nat → Byte := fun a =>
  if start ≤ a then (bytes[a - start]?).getD (memory a) else memory a

theorem store_outside (outside : a ∉ range start bytes.length) :
    store memory start bytes a = memory a := by
  unfold store
  by_cases behind : start ≤ a
  · have past : bytes.length ≤ a - start := by
      rw [mem_range] at outside
      omega
    rw [if_pos behind, List.getElem?_eq_none past, Option.getD_none]
  · exact if_neg behind

theorem store_inside (inside : i < bytes.length) :
    store memory start bytes (start + i) = bytes[i] := by
  simp [store, inside]

/-- A second store to the address overrides the first. -/
theorem store_store (same : first.length = second.length) :
    store (store memory start first) start second = store memory start second := by
  funext a
  by_cases inside : a ∈ range start second.length
  · rw [mem_range] at inside
    have position : start + (a - start) = a := by omega
    have bound : a - start < second.length := by omega
    rw [← position, store_inside bound, store_inside bound]
  · rw [store_outside inside, store_outside inside, store_outside (same ▸ inside)]

/-- `count` strings of `width` bytes, one after another, to one address. -/
def storeRep (width : Nat) (memory : Nat → Byte) (start : Nat) : List Byte → Nat → Nat → Byte
  | _, 0 => memory
  | bytes, count + 1 =>
    storeRep width (store memory start (bytes.take width)) start (bytes.drop width) count

/-- Only the last string is left. -/
theorem storeRep_last (enough : bytes.length = (count + 1) * width) :
    storeRep width memory start bytes (count + 1) =
      store memory start (bytes.drop (count * width)) := by
  induction count generalizing memory bytes with
  | zero =>
    have whole : bytes.take width = bytes := by
      apply List.take_of_length_le
      omega
    rw [storeRep, storeRep, whole, Nat.zero_mul, List.drop_zero]
  | succ count ih =>
    have split : (count + 1 + 1) * width = (count + 1) * width + width := Nat.succ_mul ..
    have again : (count + 1) * width = count * width + width := Nat.succ_mul ..
    have rest : (bytes.drop width).length = (count + 1) * width := by
      rw [List.length_drop]
      omega
    rw [storeRep, ih rest, List.drop_drop, store_store]
    · congr 2
      omega
    · rw [List.length_take, List.length_drop]
      omega

end Store

/-! ## Updates of parts -/

section Updates
variable {Byte Item : Type} {update : (Nat → Byte) → Item → Nat → Byte} {part : Item → Set Nat}

/-- What belongs to no part is left alone. -/
theorem foldl_outside (confined : ∀ memory item a, a ∉ part item → update memory item a = memory a)
    (items : List Item) (memory : Nat → Byte) (outside : ∀ item ∈ items, a ∉ part item) :
    items.foldl update memory a = memory a := by
  induction items generalizing memory with
  | nil => rfl
  | cons item rest ih =>
    rw [List.foldl_cons, ih _ fun other member => outside other (List.mem_cons_of_mem item member)]
    exact confined memory item a (outside item List.mem_cons_self)

/-- An address in an item's part holds what that item's update puts there. -/
theorem foldl_inside (confined : ∀ memory item a, a ∉ part item → update memory item a = memory a)
    {value : Item → Nat → Byte}
    (sets : ∀ memory item a, a ∈ part item → update memory item a = value item a)
    (apart : ∀ one two, one ≠ two → Disjoint (part one) (part two))
    {items : List Item} {item : Item} (member : item ∈ items) (inside : a ∈ part item)
    (memory : Nat → Byte) : items.foldl update memory a = value item a := by
  induction items generalizing memory with
  | nil => exact absurd member List.not_mem_nil
  | cons first rest ih =>
    rw [List.foldl_cons]
    by_cases later : item ∈ rest
    · exact ih later _
    · obtain rfl : item = first := (List.mem_cons.mp member).resolve_right later
      rw [foldl_outside confined rest]
      · exact sets memory item a inside
      · intro other isLater
        have different : item ≠ other := fun same => later (same ▸ isLater)
        exact Set.disjoint_left.mp (apart item other different) inside

end Updates

end LddLearn.Library.Memory
