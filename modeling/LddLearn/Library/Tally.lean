import Mathlib.Data.Finset.Card

/-!
# Counting who stands where

Each index stands at a place; a tally counts those at places of one kind. An index that moves
changes it by one at most.
-/

set_option autoImplicit false

namespace LddLearn.Library

universe u v
variable {Index : Type u} {Place : Type v}

/-- `count` of the indices stand at a place of the kind. -/
def Tally (kind : Place → Prop) (places : Index → Place) (count : Nat) : Prop :=
  ∃ here : Finset Index, (∀ i, i ∈ here ↔ kind (places i)) ∧ here.card = count

namespace Tally
variable {kind : Place → Prop} {places : Index → Place} {count : Nat} {i : Index} {place : Place}

theorem start (nobody : ∀ i, ¬ kind (places i)) : Tally kind places 0 :=
  ⟨∅, fun i => by simp [nobody i], rfl⟩

theorem eq_zero_iff (tally : Tally kind places count) : count = 0 ↔ ∀ i, ¬ kind (places i) := by
  obtain ⟨here, members, rfl⟩ := tally
  rw [Finset.card_eq_zero, Finset.eq_empty_iff_forall_notMem]
  exact forall_congr' fun i => not_congr (members i)

theorem unique {other : Nat} (tally : Tally kind places count) (again : Tally kind places other) :
    count = other := by
  obtain ⟨here, members, rfl⟩ := tally
  obtain ⟨there, counted, rfl⟩ := again
  exact congrArg Finset.card (Finset.ext fun i => (members i).trans (counted i).symm)

variable [DecidableEq Index]

theorem arrives (tally : Tally kind places count) (was : ¬ kind (places i)) (now : kind place) :
    Tally kind (Function.update places i place) (count + 1) := by
  obtain ⟨here, members, rfl⟩ := tally
  refine ⟨insert i here, fun j => ?_, Finset.card_insert_of_notMem (mt (members i).mp was)⟩
  by_cases same : j = i
  · subst same
    simp [now]
  · simp [same, members j]

theorem leaves (tally : Tally kind places count) (was : kind (places i)) (now : ¬ kind place) :
    ∃ less, count = less + 1 ∧ Tally kind (Function.update places i place) less := by
  obtain ⟨here, members, rfl⟩ := tally
  have inside : i ∈ here := (members i).mpr was
  refine ⟨(here.erase i).card, (Finset.card_erase_add_one inside).symm, here.erase i, fun j => ?_, rfl⟩
  by_cases same : j = i
  · subst same
    simp [now]
  · simp [same, members j]

theorem stays (tally : Tally kind places count) (same : kind place ↔ kind (places i)) :
    Tally kind (Function.update places i place) count := by
  obtain ⟨here, members, rfl⟩ := tally
  refine ⟨here, fun j => ?_, rfl⟩
  by_cases moved : j = i
  · subst moved
    simp [same, members j]
  · simp [moved, members j]

end Tally

end LddLearn.Library
