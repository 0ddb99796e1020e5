import Mathlib

/-!
# Finite one-to-one numberings

A `Numbering` gives finitely many keys distinct numbers from a range of `size`
consecutive integers. Keys are inserted under a free number and erased; both
operations build a numbering again, so injectivity and range never have to be
proved of a state. It is full exactly when it has `size` keys.
-/

set_option autoImplicit false

namespace LddLearn.Library

universe u

structure Numbering (α : Type u) (first : Int) (size : Nat) where
  domain : Finset α
  number : α → Option Int
  mem_domain : ∀ a, a ∈ domain ↔ ∃ k, number a = some k
  inRange : ∀ a k, number a = some k → first ≤ k ∧ k < first + size
  injective : ∀ a b k, number a = some k → number b = some k → a = b

namespace Numbering

variable {α : Type u} {first : Int} {size : Nat} {a b : α} {k : Int}

/-- A number of the range that no key has. -/
def Free (N : Numbering α first size) (k : Int) : Prop :=
  (first ≤ k ∧ k < first + size) ∧ ∀ a, N.number a ≠ some k

theorem number_of_mem (N : Numbering α first size) (present : a ∈ N.domain) :
    ∃ k, N.number a = some k :=
  (N.mem_domain a).mp present

theorem number_eq_none (N : Numbering α first size) (absent : a ∉ N.domain) :
    N.number a = none := by
  cases h : N.number a with
  | none => rfl
  | some k => exact absurd ((N.mem_domain a).mpr ⟨k, h⟩) absent

theorem mem_of_number (N : Numbering α first size) (numbered : N.number a = some k) :
    a ∈ N.domain :=
  (N.mem_domain a).mpr ⟨k, numbered⟩

/-! ## Counting -/

/-- The numbers in use. -/
def used (N : Numbering α first size) : Finset Int :=
  N.domain.image fun a => (N.number a).getD first

theorem mem_used (N : Numbering α first size) : k ∈ N.used ↔ ∃ a, N.number a = some k := by
  unfold used
  rw [Finset.mem_image]
  constructor
  · intro ⟨a, present, same⟩
    obtain ⟨j, numbered⟩ := N.number_of_mem present
    rw [numbered, Option.getD_some] at same
    exact ⟨a, same ▸ numbered⟩
  · intro ⟨a, numbered⟩
    exact ⟨a, N.mem_of_number numbered, by rw [numbered, Option.getD_some]⟩

theorem card_used (N : Numbering α first size) : N.used.card = N.domain.card := by
  apply Finset.card_image_of_injOn
  intro a memberA b memberB same
  obtain ⟨i, numberA⟩ := N.number_of_mem memberA
  obtain ⟨j, numberB⟩ := N.number_of_mem memberB
  simp only [numberA, numberB, Option.getD_some] at same
  exact N.injective a b i numberA (same ▸ numberB)

theorem used_subset (N : Numbering α first size) : N.used ⊆ Finset.Ico first (first + size) := by
  intro k member
  obtain ⟨a, numbered⟩ := N.mem_used.mp member
  exact Finset.mem_Ico.mpr (N.inRange a k numbered)

theorem card_range (first : Int) (size : Nat) : (Finset.Ico first (first + size)).card = size := by
  rw [Int.card_Ico]
  omega

theorem card_le (N : Numbering α first size) : N.domain.card ≤ size := by
  calc N.domain.card = N.used.card := N.card_used.symm
    _ ≤ (Finset.Ico first (first + size)).card := Finset.card_le_card N.used_subset
    _ = size := card_range first size

/-- With as many keys as numbers none is free, and only then. -/
theorem card_eq_size_iff (N : Numbering α first size) :
    N.domain.card = size ↔ ∀ k, ¬ N.Free k := by
  constructor
  · intro full k free
    have all : N.used = Finset.Ico first (first + size) := by
      apply Finset.eq_of_subset_of_card_le N.used_subset
      rw [card_range, N.card_used, full]
    have taken : k ∈ N.used := all ▸ Finset.mem_Ico.mpr free.1
    obtain ⟨a, numbered⟩ := N.mem_used.mp taken
    exact free.2 a numbered
  · intro noFree
    have all : Finset.Ico first (first + size) ⊆ N.used := by
      intro k range
      by_contra unused
      apply noFree k
      exact ⟨Finset.mem_Ico.mp range, fun a numbered => unused (N.mem_used.mpr ⟨a, numbered⟩)⟩
    have := Finset.card_le_card all
    rw [card_range, N.card_used] at this
    have := N.card_le
    omega

/-! ## Operations -/

def empty (first : Int) (size : Nat) : Numbering α first size where
  domain := ∅
  number := fun _ => none
  mem_domain := by simp
  inRange := by simp
  injective := by simp

variable [DecidableEq α]

/-- The key gets a number that is free. -/
def insert (N : Numbering α first size) (a : α) (k : Int) (free : N.Free k) :
    Numbering α first size where
  domain := Insert.insert a N.domain
  number := Function.update N.number a (some k)
  mem_domain := by
    intro b
    by_cases same : b = a
    · simp [same]
    · simp [same, N.mem_domain b]
  inRange := by
    intro b j numbered
    by_cases same : b = a
    · subst same
      rw [Function.update_self] at numbered
      exact Option.some.inj numbered ▸ free.1
    · rw [Function.update_of_ne same] at numbered
      exact N.inRange b j numbered
  injective := by
    intro b c j numberB numberC
    by_cases isB : b = a
    · by_cases isC : c = a
      · rw [isB, isC]
      · rw [isB, Function.update_self] at numberB
        rw [Function.update_of_ne isC, ← numberB] at numberC
        exact absurd numberC (free.2 c)
    · rw [Function.update_of_ne isB] at numberB
      by_cases isC : c = a
      · rw [isC, Function.update_self] at numberC
        rw [← numberC] at numberB
        exact absurd numberB (free.2 b)
      · rw [Function.update_of_ne isC] at numberC
        exact N.injective b c j numberB numberC

def erase (N : Numbering α first size) (a : α) : Numbering α first size where
  domain := N.domain.erase a
  number := Function.update N.number a none
  mem_domain := by
    intro b
    by_cases same : b = a
    · simp [same]
    · simp [same, N.mem_domain b]
  inRange := by
    intro b j numbered
    by_cases same : b = a
    · simp [same] at numbered
    · rw [Function.update_of_ne same] at numbered
      exact N.inRange b j numbered
  injective := by
    intro b c j numberB numberC
    by_cases isB : b = a
    · simp [isB] at numberB
    · by_cases isC : c = a
      · simp [isC] at numberC
      · rw [Function.update_of_ne isB] at numberB
        rw [Function.update_of_ne isC] at numberC
        exact N.injective b c j numberB numberC

variable {N : Numbering α first size}

@[simp] theorem number_insert_self (free : N.Free k) : (N.insert a k free).number a = some k :=
  Function.update_self ..

theorem number_insert_of_ne (free : N.Free k) (different : b ≠ a) :
    (N.insert a k free).number b = N.number b :=
  Function.update_of_ne different ..

@[simp] theorem number_erase_self : (N.erase a).number a = none :=
  Function.update_self ..

theorem number_erase_of_ne (different : b ≠ a) : (N.erase a).number b = N.number b :=
  Function.update_of_ne different ..

/-- Erasing a key frees its number. -/
theorem free_erase (numbered : N.number a = some k) : (N.erase a).Free k := by
  refine ⟨N.inRange a k numbered, ?_⟩
  intro b again
  by_cases same : b = a
  · simp [same] at again
  · rw [number_erase_of_ne same] at again
    exact same (N.injective b a k again numbered)

end Numbering

end LddLearn.Library
