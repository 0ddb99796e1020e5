import Mathlib.Data.List.Infix
import Mathlib.Logic.Function.Basic

/-!
# Copying cell by cell

`Copied` is what a copy loop has established when its index has reached `count`. `copyOut`
is a copy to successive addresses that skips those that cannot be written: nothing is
missing of it when none faults, and one cell at the first fault when one does.
-/

set_option autoImplicit false

namespace LddLearn.Library.Copy

universe u
variable {Cell : Type u} {n count : Nat} {source target : Fin n → Cell}

/-- The first `count` cells of the target are the source's. -/
def Copied (source target : Fin n → Cell) (count : Nat) : Prop :=
  ∀ i : Fin n, i.val < count → target i = source i

theorem copied_zero (source target : Fin n → Cell) : Copied source target 0 :=
  fun _ impossible => absurd impossible (Nat.not_lt_zero _)

theorem Copied.next (copied : Copied source target count) (inside : count < n) :
    Copied source (Function.update target ⟨count, inside⟩ (source ⟨count, inside⟩)) (count + 1) := by
  intro i below
  by_cases here : i = ⟨count, inside⟩
  · rw [here, Function.update_self]
  · have earlier : i.val < count := by
      have different : i.val ≠ count := fun same => here (Fin.ext same)
      omega
    rw [Function.update_of_ne here]
    exact copied i earlier

theorem Copied.all (copied : Copied source target count) (past : ¬ count < n) :
    target = source := by
  funext i
  have := i.isLt
  exact copied i (by omega)

/-! ## To addresses that may fault -/

/-- The cells that arrive at `target` and the addresses behind it. -/
def copyOut (faults : Nat → Bool) : Nat → List Cell → List (Nat × Cell)
  | _, [] => []
  | target, cell :: rest =>
    if faults target then copyOut faults (target + 1) rest
    else (target, cell) :: copyOut faults (target + 1) rest

/-- The index of the first of `count` addresses that faults. -/
def firstFault (faults : Nat → Bool) (target count : Nat) : Option Nat :=
  (List.range count).find? fun i => faults (target + i)

/-- No two of the `count` addresses fault. -/
def AtMostOneFault (faults : Nat → Bool) (target count : Nat) : Prop :=
  ∀ i < count, ∀ j < count, faults (target + i) = true → faults (target + j) = true → i = j

variable {faults : Nat → Bool}

theorem copyOut_append (target : Nat) (front back : List Cell) :
    copyOut faults target (front ++ back) =
      copyOut faults target front ++ copyOut faults (target + front.length) back := by
  induction front generalizing target with
  | nil => rfl
  | cons cell rest ih =>
    have shift : target + (cell :: rest).length = target + 1 + rest.length := by
      rw [List.length_cons]
      omega
    rw [List.cons_append, copyOut, copyOut, ih, shift]
    split
    · rfl
    · rfl

theorem copyOut_sublist (target : Nat) (cells : List Cell) :
    ((copyOut faults target cells).map (·.2)).Sublist cells := by
  induction cells generalizing target with
  | nil => exact List.Sublist.slnil
  | cons cell rest ih =>
    rw [copyOut]
    split
    · exact (ih (target + 1)).cons cell
    · exact (ih (target + 1)).cons_cons cell

theorem copyOut_length_le (target : Nat) (cells : List Cell) :
    (copyOut faults target cells).length ≤ cells.length := by
  have shorter : ((copyOut faults target cells).map (·.2)).length ≤ cells.length :=
    (copyOut_sublist target cells).length_le
  rwa [List.length_map] at shorter

/-- All cells arrive exactly when no address faults. -/
theorem copyOut_length_eq_iff (target : Nat) (cells : List Cell) :
    (copyOut faults target cells).length = cells.length ↔
      ∀ i < cells.length, faults (target + i) = false := by
  induction cells generalizing target with
  | nil => simp [copyOut]
  | cons cell rest ih =>
    have short : (copyOut faults (target + 1) rest).length ≤ rest.length :=
      copyOut_length_le (target + 1) rest
    have shift (i : Nat) : faults (target + (i + 1)) = faults (target + 1 + i) :=
      congrArg faults (by omega)
    rw [copyOut, List.length_cons, Nat.forall_lt_succ_left]
    simp only [shift, Nat.add_zero]
    by_cases fault : faults target = true
    · rw [if_pos fault]
      constructor
      · intro same
        omega
      · rintro ⟨clear, _⟩
        exact absurd (fault.symm.trans clear) (by simp)
    · have clear : faults target = false := by simpa using fault
      rw [if_neg fault, List.length_cons, Nat.succ_inj, ih]
      simp only [clear, true_and]

theorem copyOut_clear {target : Nat} {cells : List Cell}
    (clear : ∀ i < cells.length, faults (target + i) = false) :
    (copyOut faults target cells).map (·.2) = cells := by
  apply (copyOut_sublist target cells).eq_of_length
  rw [List.length_map]
  exact (copyOut_length_eq_iff target cells).mpr clear

theorem copyOut_values (target : Nat) (value : Nat → Cell) (count : Nat) :
    (copyOut faults target ((List.range count).map value)).map (·.2) =
      ((List.range count).filter fun i => !faults (target + i)).map value := by
  induction count with
  | zero => rfl
  | succ count ih =>
    rw [List.range_succ, List.map_append, copyOut_append, List.map_append, ih, List.filter_append,
      List.map_append, List.length_map, List.length_range]
    congr 1
    by_cases fault : faults (target + count) = true
    · simp [copyOut, fault]
    · simp [copyOut, fault]

theorem firstFault_faults {target count first : Nat}
    (found : firstFault faults target count = some first) :
    first < count ∧ faults (target + first) = true := by
  obtain ⟨fault, member, _⟩ := List.find?_range_eq_some.mp found
  exact ⟨List.mem_range.mp member, fault⟩

theorem firstFault_ne_none {target count i : Nat} (inside : i < count)
    (fault : faults (target + i) = true) : firstFault faults target count ≠ none := by
  intro missing
  have clear := List.find?_eq_none.mp missing i (List.mem_range.mpr inside)
  exact clear fault

/-- What faults comes to no more than what faults first. -/
theorem filter_clear_sublist (target count : Nat) :
    ((List.range count).filter fun i => !faults (target + i)).Sublist
      ((List.range count).filter fun i => firstFault faults target count ≠ some i) := by
  apply List.monotone_filter_right
  intro i clear
  have notFirst : firstFault faults target count ≠ some i := by
    intro first
    simp [(firstFault_faults first).2] at clear
  exact decide_eq_true notFirst

theorem atMostOneFault_of_first {target count : Nat}
    (only : ∀ i < count, faults (target + i) = true → firstFault faults target count = some i) :
    AtMostOneFault faults target count := by
  intro i inside j inside' fault fault'
  exact Option.some.inj ((only i inside fault).symm.trans (only j inside' fault'))

theorem AtMostOneFault.faults_iff {target count i : Nat}
    (once : AtMostOneFault faults target count) (inside : i < count) :
    faults (target + i) = true ↔ firstFault faults target count = some i := by
  constructor
  · intro fault
    obtain ⟨first, found⟩ := Option.ne_none_iff_exists'.mp (firstFault_ne_none inside fault)
    obtain ⟨before, firstFaults⟩ := firstFault_faults found
    obtain rfl : first = i := once first before i inside firstFaults fault
    exact found
  · exact fun found => (firstFault_faults found).2

/-- Only the cell at the first fault is missing, exactly when no second address faults. -/
theorem copyOut_gap_iff (target : Nat) (value : Nat → Cell) (count : Nat) :
    (copyOut faults target ((List.range count).map value)).map (·.2) =
        ((List.range count).filter fun i => firstFault faults target count ≠ some i).map value ↔
      AtMostOneFault faults target count := by
  rw [copyOut_values]
  constructor
  · intro same
    have lengths := congrArg List.length same
    rw [List.length_map, List.length_map] at lengths
    have filters := (filter_clear_sublist target count).eq_of_length lengths
    -- a fault that is not the first is dropped on the left only
    apply atMostOneFault_of_first
    intro i inside fault
    by_contra later
    have kept : i ∈ (List.range count).filter fun i => !faults (target + i) := by
      rw [filters]
      exact List.mem_filter.mpr ⟨List.mem_range.mpr inside, decide_eq_true later⟩
    simp [fault] at kept
  · intro once
    congr 1
    apply List.filter_congr
    intro i member
    have first := once.faults_iff (List.mem_range.mp member)
    by_cases fault : faults (target + i) = true
    · simp [fault, first.mp fault]
    · simp [fault, mt first.mpr fault]

theorem length_filter_range_ne {count first : Nat} (inside : first < count) :
    ((List.range count).filter fun i => decide (first ≠ i)).length + 1 = count := by
  have erased : (List.range count).erase first =
      (List.range count).filter fun i => decide (first ≠ i) := by
    rw [List.nodup_range.erase_eq_filter]
    apply List.filter_congr
    intro i _
    by_cases here : first = i
    · simp [here]
    · simp [here, Ne.symm here]
  rw [← erased, List.length_erase_of_mem (List.mem_range.mpr inside), List.length_range]
  omega

/-- Where no second address faults, one cell is missing or none. -/
theorem AtMostOneFault.length_copyOut {target count : Nat}
    (once : AtMostOneFault faults target count) (value : Nat → Cell) :
    (copyOut faults target ((List.range count).map value)).length = count ∨
      firstFault faults target count ≠ none ∧
        (copyOut faults target ((List.range count).map value)).length + 1 = count := by
  have lengths := congrArg List.length ((copyOut_gap_iff target value count).mpr once)
  rw [List.length_map, List.length_map] at lengths
  rw [lengths]
  cases found : firstFault faults target count with
  | none => simp
  | some first =>
    refine Or.inr ⟨Option.some_ne_none first, ?_⟩
    simp only [ne_eq, Option.some.injEq]
    exact length_filter_range_ne (firstFault_faults found).1

end LddLearn.Library.Copy
