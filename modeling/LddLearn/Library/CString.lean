import Mathlib.Logic.Function.Basic

/-!
# Terminated strings in memory

A memory is a function from addresses to cells. `StringAt` says that a text stands
at an address, followed by the terminator and containing none; `store` writes one
cell after the other. A reader that has advanced by `n` cells stands at the text's
`drop n`.
-/

set_option autoImplicit false

namespace LddLearn.Library.CString

universe u
variable {Cell : Type u}

/-- The text stands at `ptr`, none of its cells the terminator, which follows it. -/
def StringAt (nul : Cell) (mem : Nat → Cell) : Nat → List Cell → Prop
  | ptr, [] => mem ptr = nul
  | ptr, cell :: rest => mem ptr = cell ∧ cell ≠ nul ∧ StringAt nul mem (ptr + 1) rest

/-- The text and the terminator, written from `ptr` on. -/
def store (nul : Cell) : (Nat → Cell) → Nat → List Cell → Nat → Cell
  | mem, ptr, [] => Function.update mem ptr nul
  | mem, ptr, cell :: rest => store nul (Function.update mem ptr cell) (ptr + 1) rest

variable {nul : Cell} {mem : Nat → Cell} {ptr : Nat} {text : List Cell}

/-- `store` writes `text.length + 1` cells. -/
theorem store_outside (nul : Cell) (mem : Nat → Cell) {ptr address : Nat} {text : List Cell}
    (outside : address < ptr ∨ ptr + text.length < address) :
    store nul mem ptr text address = mem address := by
  induction text generalizing mem ptr with
  | nil =>
    unfold store
    rw [List.length_nil] at outside
    exact Function.update_of_ne (by omega) _ _
  | cons cell rest ih =>
    rw [List.length_cons] at outside
    unfold store
    rw [ih _ (by omega)]
    exact Function.update_of_ne (by omega) _ _

theorem stringAt_store (mem : Nat → Cell) (ptr : Nat) (clean : ∀ cell ∈ text, cell ≠ nul) :
    StringAt nul (store nul mem ptr text) ptr text := by
  induction text generalizing mem ptr with
  | nil => exact Function.update_self ..
  | cons cell rest ih =>
    refine ⟨?_, clean cell List.mem_cons_self, ?_⟩
    · unfold store
      rw [store_outside nul _ (by omega)]
      exact Function.update_self ..
    · exact ih _ _ fun other member => clean other (List.mem_cons_of_mem cell member)

theorem StringAt.terminated (string : StringAt nul mem ptr text) :
    mem (ptr + text.length) = nul := by
  induction text generalizing ptr with
  | nil => exact string
  | cons cell rest ih =>
    have later := ih string.2.2
    rw [List.length_cons]
    rwa [show ptr + (rest.length + 1) = ptr + 1 + rest.length by omega]

theorem StringAt.drop (string : StringAt nul mem ptr text) {n : Nat} (inside : n ≤ text.length) :
    StringAt nul mem (ptr + n) (text.drop n) := by
  induction n generalizing ptr text with
  | zero => exact string
  | succ n ih =>
    cases text with
    | nil => simp at inside
    | cons cell rest =>
      rw [List.length_cons] at inside
      rw [List.drop_succ_cons, show ptr + (n + 1) = ptr + 1 + n by omega]
      exact ih string.2.2 (by omega)

/-- The text reaches as far as no terminator has been met. -/
theorem StringAt.within_iff (string : StringAt nul mem ptr text) (i : Nat) :
    (∀ j ≤ i, mem (ptr + j) ≠ nul) ↔ i < text.length := by
  constructor
  · intro clean
    by_contra past
    exact clean text.length (by omega) string.terminated
  · intro inside j before
    have later := string.drop (show j ≤ text.length by omega)
    cases left : text.drop j with
    | nil =>
      have length := List.drop_eq_nil_iff.mp left
      omega
    | cons cell rest =>
      rw [left] at later
      exact later.1 ▸ later.2.1

end LddLearn.Library.CString
