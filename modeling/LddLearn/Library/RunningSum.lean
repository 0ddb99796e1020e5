import Mathlib.Algebra.BigOperators.Fin
import Mathlib.NumberTheory.Padics.PadicVal.Basic
import Mathlib.Tactic.Abel
import Mathlib.Tactic.Ring

/-!
# Sums of running sums

Two accumulators over a list: the sum of the elements and the sum of the values
the first one takes. The second weighs every element by how many elements stand
from it to the end, so two lists that differ little are told apart by few
weights. `not_pow_dvd_mul` says when a product of a weight and a difference
cannot vanish modulo a prime power. `combination` has any weights, of either sign.
-/

set_option autoImplicit false

namespace LddLearn.Library.RunningSum

universe u
variable {R : Type u} {n : Nat}

/-- Sum of the elements, and sum of the first sum's values. -/
def runningSums [AddCommMonoid R] (start : R × R) (data : List R) : R × R :=
  data.foldl (fun sums value => (sums.1 + value, sums.2 + (sums.1 + value))) start

/-- Every element counted once for each element from it to the end. -/
def weightedSum [AddCommMonoid R] (data : Fin n → R) : R :=
  ∑ i : Fin n, (n - i.val) • data i

theorem runningSums_ofFn [AddCommMonoid R] (start : R × R) (data : Fin n → R) :
    runningSums start (List.ofFn data) =
      (start.1 + ∑ i, data i, start.2 + n • start.1 + weightedSum data) := by
  induction n generalizing start with
  | zero => simp [runningSums, weightedSum]
  | succ n ih =>
    have rest := ih (start.1 + data 0, start.2 + (start.1 + data 0)) fun i => data i.succ
    rw [List.ofFn_succ]
    change runningSums (start.1 + data 0, start.2 + (start.1 + data 0)) _ = _
    rw [rest, Prod.mk.injEq]
    constructor
    · rw [Fin.sum_univ_succ, add_assoc]
    · unfold weightedSum
      rw [Fin.sum_univ_succ]
      have later : ∀ i : Fin n, n + 1 - i.succ.val = n - i.val := fun i => by
        rw [Fin.val_succ]
        omega
      simp only [later, Fin.val_zero, Nat.sub_zero, succ_nsmul, nsmul_add]
      abel

/-- Reducing every element first does not change the reduced sum. -/
theorem weightedSum_natCast [NonAssocSemiring R] (data : Fin n → Nat) :
    weightedSum (fun i => (data i : R)) = ((weightedSum data : Nat) : R) := by
  unfold weightedSum
  rw [Nat.cast_sum]
  apply Finset.sum_congr rfl
  intro i _
  rw [nsmul_eq_mul, smul_eq_mul, Nat.cast_mul]

variable [AddCommGroup R]

theorem weightedSum_sub (left right : Fin n → R) :
    weightedSum left - weightedSum right = ∑ i : Fin n, (n - i.val) • (left i - right i) := by
  unfold weightedSum
  rw [← Finset.sum_sub_distrib]
  apply Finset.sum_congr rfl
  intro i _
  exact (nsmul_sub _ _ _).symm

/-- A change at one position shows with that position's weight. -/
theorem weightedSum_sub_of_one (left right : Fin n → R) (position : Fin n)
    (others : ∀ i, i ≠ position → left i = right i) :
    weightedSum left - weightedSum right =
      (n - position.val) • (left position - right position) := by
  rw [weightedSum_sub, Finset.sum_eq_single position]
  · intro i _ elsewhere
    rw [others i elsewhere, sub_self, nsmul_zero]
  · intro missing
    exact absurd (Finset.mem_univ position) missing

/-- An exchange shows with the distance of the two positions. -/
theorem weightedSum_sub_swap (data : Fin n → R) {first second : Fin n} (order : first < second) :
    weightedSum data - weightedSum (data ∘ Equiv.swap first second) =
      (second.val - first.val) • (data first - data second) := by
  have distinct : first ≠ second := order.ne
  have before : first.val < second.val := order
  have inside : second.val < n := second.isLt
  rw [weightedSum_sub, Finset.sum_eq_add first second distinct]
  · have split : n - first.val = (second.val - first.val) + (n - second.val) := by omega
    simp only [Function.comp_apply, Equiv.swap_apply_left, Equiv.swap_apply_right]
    rw [split, add_nsmul, add_assoc, ← nsmul_add, sub_add_sub_cancel, sub_self, nsmul_zero,
      add_zero]
  · intro i _ elsewhere
    rw [Function.comp_apply, Equiv.swap_apply_of_ne_of_ne elsewhere.1 elsewhere.2, sub_self,
      nsmul_zero]
  · intro missing
    exact absurd (Finset.mem_univ first) missing
  · intro missing
    exact absurd (Finset.mem_univ second) missing

/-- Two positive factors below `p ^ (a + 1)` and `p ^ (b + 1)` have fewer than
`a + b + 1` factors `p` between them. -/
theorem not_pow_dvd_mul {p a b : Nat} (prime : p.Prime) {x y : Nat} (x_pos : 0 < x)
    (x_lt : x < p ^ (a + 1)) (y_pos : 0 < y) (y_lt : y < p ^ (b + 1)) :
    ¬ p ^ (a + b + 1) ∣ x * y := by
  have : Fact p.Prime := ⟨prime⟩
  have valuation_le : ∀ {z c : Nat}, 0 < z → z < p ^ (c + 1) → padicValNat p z ≤ c := by
    intro z c positive bound
    have divides : p ^ padicValNat p z ≤ z := Nat.le_of_dvd positive pow_padicValNat_dvd
    have exponent := (Nat.pow_lt_pow_iff_right prime.one_lt).mp (lt_of_le_of_lt divides bound)
    omega
  intro divides
  have total := (padicValNat_dvd_iff_le (Nat.mul_pos x_pos y_pos).ne').mp divides
  rw [padicValNat.mul x_pos.ne' y_pos.ne'] at total
  have := valuation_le x_pos x_lt
  have := valuation_le y_pos y_lt
  omega

/-! ## Any weights -/

section Combination
variable {ι : Type u} [Fintype ι] [DecidableEq ι] (weight values : ι → ℤ)

/-- The values, each by its weight. -/
def combination (weight values : ι → ℤ) : ℤ := ∑ i, weight i * values i

/-- A change at one place shows with the weight of that place. -/
theorem combination_update (place : ι) (value : ℤ) :
    combination weight (Function.update values place value) =
      combination weight values + weight place * (value - values place) := by
  unfold combination
  rw [← sub_eq_iff_eq_add', ← Finset.sum_sub_distrib, Finset.sum_eq_single place]
  · simp [mul_sub]
  · intro i _ elsewhere
    simp [elsewhere]
  · simp

/-- An exchange shows with the difference of the two weights. -/
theorem combination_swap {first second : ι} (distinct : first ≠ second) :
    combination weight (values ∘ Equiv.swap first second) =
      combination weight values +
        (weight first - weight second) * (values second - values first) := by
  unfold combination
  rw [← sub_eq_iff_eq_add', ← Finset.sum_sub_distrib, Finset.sum_eq_add first second distinct]
  · simp only [Function.comp_apply, Equiv.swap_apply_left, Equiv.swap_apply_right]
    ring
  · intro i _ elsewhere
    simp [Equiv.swap_apply_of_ne_of_ne elsewhere.1 elsewhere.2]
  · simp
  · simp

end Combination

end LddLearn.Library.RunningSum
