import LddLearn.Library.RunningSum
import LddLearn.Ssxa.Frame

/-!
# What `ssxa_checksum` computes and detects

The checksum is the weighted sum of the bytes modulo `2^16`: the byte at index `i`
of `n` counts `n - i` times. The source's loop ends for every length but the greatest
`size_t`, where its index wraps. A weight below `2^9` times a difference below `2^8`
has at most fifteen factors two, so no such product vanishes.
-/

set_option autoImplicit false

namespace LddLearn.Ssxa
open LddLearn.Library.RunningSum

variable {n : Nat}

/-- A byte as a summand of the 16-bit sums. -/
def widened (byte : BitVec 8) : BitVec 16 := byte.setWidth 16

theorem ssxaChecksum_eq_runningSums (data : List (BitVec 8)) :
    ssxaChecksum data = (runningSums 0 (data.map widened)).2 := by
  unfold ssxaChecksum runningSums
  rw [List.foldl_map]
  rfl

theorem ssxaChecksum_ofFn (data : Fin n → BitVec 8) :
    ssxaChecksum (List.ofFn data) = weightedSum (widened ∘ data) := by
  rw [ssxaChecksum_eq_runningSums, List.map_ofFn, runningSums_ofFn]
  simp

/-! ## The loop and its closed form -/

section Loop
variable {w : Nat}

/-- The arrays `Q[2]` and `S[2]`. -/
structure Sums where
  q0 : BitVec 16
  q1 : BitVec 16
  s0 : BitVec 16
  s1 : BitVec 16
  deriving DecidableEq, Repr

def Sums.zero : Sums := ⟨0, 0, 0, 0⟩

/-- The body of the `for`. -/
def Sums.round (sums : Sums) (byte : BitVec 8) : Sums :=
  let q1 := sums.q0 + byte.setWidth 16
  let s1 := sums.s0 + q1
  { q0 := q1, q1, s0 := s1, s1 }

/-- The `for` of `ssxa_checksum` with an index of `w` bits, as many as `size_t` has: the
`S[1]` returned, or `none` when `fuel` rounds are not enough or a byte outside `data` is
read. -/
def ssxaChecksumLoop (data : List (BitVec 8)) (len : BitVec w) :
    Nat → BitVec w → Sums → Option (BitVec 16)
  | 0, _, _ => none
  | fuel + 1, i, sums =>
    if i ≤ len then
      data[(i - 1).toNat]?.bind fun byte => ssxaChecksumLoop data len fuel (i + 1) (sums.round byte)
    else some sums.s1

/-- No index is behind the greatest length. -/
theorem ssxaChecksumLoop_endless (data : List (BitVec 8)) (fuel : Nat) (i : BitVec w) (sums : Sums) :
    ssxaChecksumLoop data (BitVec.allOnes w) fuel i sums = none := by
  induction fuel generalizing i sums with
  | zero => rfl
  | succ fuel ih =>
    have inside : i ≤ BitVec.allOnes w := by
      have width := i.isLt
      rw [BitVec.le_def, BitVec.toNat_allOnes]
      omega
    rw [ssxaChecksumLoop, if_pos inside]
    simp only [ih, Option.bind_fun_none]

/-- Between two rounds `S[1]` is `S[0]`, so the pair of sums is all that counts. -/
theorem foldl_round (data : List (BitVec 8)) {sums : Sums} (same : sums.s1 = sums.s0) :
    (data.foldl Sums.round sums).s1 =
      (runningSums (sums.q0, sums.s0) (data.map widened)).2 := by
  induction data generalizing sums with
  | nil => exact same
  | cons byte rest ih =>
    rw [List.foldl_cons, ih rfl]
    rfl

/-- The index the loop starts from. -/
theorem toNat_first (room : 1 < 2 ^ w) : (1 : BitVec w).toNat = 1 :=
  (BitVec.toNat_ofNat 1 w).trans (Nat.mod_eq_of_lt room)

/-- With `done` read and `rest` to come, the loop returns what the rounds over `rest` give. -/
theorem ssxaChecksumLoop_rest {data done rest : List (BitVec 8)} {len i : BitVec w} {fuel : Nat}
    (split : data = done ++ rest) (length : len.toNat = data.length)
    (fits : data.length + 1 < 2 ^ w) (index : i.toNat = done.length + 1)
    (enough : rest.length < fuel) (sums : Sums) :
    ssxaChecksumLoop data len fuel i sums = some (rest.foldl Sums.round sums).s1 := by
  induction rest generalizing done i fuel sums with
  | nil =>
    obtain ⟨more, rfl⟩ := Nat.exists_eq_succ_of_ne_zero (Nat.ne_of_gt enough)
    have past : ¬ i ≤ len := by
      rw [BitVec.le_def, index, length, split, List.append_nil]
      omega
    rw [ssxaChecksumLoop, if_neg past]
    rfl
  | cons byte rest ih =>
    rw [List.length_cons] at enough
    obtain ⟨more, rfl⟩ := Nat.exists_eq_succ_of_ne_zero (Nat.ne_of_gt (Nat.zero_lt_of_lt enough))
    have size : data.length = done.length + (rest.length + 1) := by
      rw [split, List.length_append, List.length_cons]
    have one : (1 : BitVec w).toNat = 1 := toNat_first (by omega)
    have inside : i ≤ len := by
      rw [BitVec.le_def, index, length]
      omega
    have here : (i - 1).toNat = done.length := by
      rw [BitVec.toNat_sub_of_le (by rw [BitVec.le_def, one]; omega), one, index]
      rfl
    have byteAt : data[(i - 1).toNat]? = some byte := by
      rw [here, split]
      simp
    have next : (i + 1).toNat = (done ++ [byte]).length + 1 := by
      rw [BitVec.toNat_add, one, index, List.length_append, List.length_singleton]
      exact Nat.mod_eq_of_lt (by omega)
    have split' : data = (done ++ [byte]) ++ rest := by
      rw [split, List.append_assoc]
      rfl
    rw [ssxaChecksumLoop, if_pos inside, byteAt, Option.bind_some, List.foldl_cons]
    exact ih split' next (by omega) (sums.round byte)

/-- The loop ends after a round for each byte, with the fold over the bytes. -/
theorem ssxaChecksumLoop_returns {data : List (BitVec 8)} {fuel : Nat}
    (fits : data.length < 2 ^ w - 1) (enough : data.length < fuel) :
    ssxaChecksumLoop data (BitVec.ofNat w data.length) fuel 1 Sums.zero = some (ssxaChecksum data) := by
  have size : data.length + 1 < 2 ^ w := by omega
  have length : (BitVec.ofNat w data.length).toNat = data.length :=
    (BitVec.toNat_ofNat ..).trans (Nat.mod_eq_of_lt (by omega))
  have index : (1 : BitVec w).toNat = ([] : List (BitVec 8)).length + 1 := toNat_first (by omega)
  rw [ssxaChecksumLoop_rest (List.nil_append data).symm length size index enough,
    foldl_round data rfl, ssxaChecksum_eq_runningSums]
  rfl

/-- The sums wrap in every round, and still the value is the weighted sum reduced once. -/
theorem toNat_ssxaChecksum (data : Fin n → BitVec 8) :
    (ssxaChecksum (List.ofFn data)).toNat = (∑ i : Fin n, (n - i.val) * (data i).toNat) % 65536 := by
  have reduced : widened ∘ data = fun i => (((data i).toNat : Nat) : BitVec 16) := by
    funext i
    apply BitVec.eq_of_toNat_eq
    simp [widened]
  rw [ssxaChecksum_ofFn, reduced, weightedSum_natCast, BitVec.natCast_eq_ofNat,
    BitVec.toNat_ofNat]
  rfl

/-- Called with any length but the greatest `size_t`, `ssxa_checksum` returns, and what it
returns is the sum in which the byte at index `i` of `n` counts `n - i` times. -/
theorem ssxaChecksum_closed_form (fits : n < 2 ^ w - 1) (data : Fin n → BitVec 8) :
    ∃ checksum, (∀ fuel, n < fuel →
        ssxaChecksumLoop (List.ofFn data) (BitVec.ofNat w n) fuel 1 Sums.zero = some checksum) ∧
      checksum.toNat = (∑ i : Fin n, (n - i.val) * (data i).toNat) % 65536 := by
  refine ⟨ssxaChecksum (List.ofFn data), ?_, toNat_ssxaChecksum data⟩
  intro fuel enough
  have length : (List.ofFn data).length = n := List.length_ofFn
  have returned : ssxaChecksumLoop (List.ofFn data) (BitVec.ofNat w (List.ofFn data).length) fuel 1
      Sums.zero = some (ssxaChecksum (List.ofFn data)) :=
    ssxaChecksumLoop_returns (by omega) (by omega)
  rwa [length] at returned

/-- Thirty bytes 255, for which `S` wraps. -/
theorem ssxaChecksum_closed_form_thirty :
    ∃ checksum, (∀ fuel, 30 < fuel →
        ssxaChecksumLoop (List.ofFn fun _ : Fin 30 => (255 : BitVec 8)) (BitVec.ofNat 64 30) fuel 1
          Sums.zero = some checksum) ∧
      checksum.toNat = 53039 := by
  obtain ⟨checksum, returned, value⟩ :=
    ssxaChecksum_closed_form (w := 64) (by decide) fun _ : Fin 30 => (255 : BitVec 8)
  exact ⟨checksum, returned, value.trans (by decide +kernel)⟩

end Loop

/-! ## Detection -/

theorem nsmul_ofNat (weight value : Nat) :
    weight • BitVec.ofNat 16 value = BitVec.ofNat 16 (weight * value) := by
  rw [nsmul_eq_mul, BitVec.natCast_eq_ofNat, BitVec.ofNat_mul]

theorem widened_sub {high low : BitVec 8} (order : low.toNat ≤ high.toNat) :
    widened high - widened low = BitVec.ofNat 16 (high.toNat - low.toNat) := by
  apply BitVec.eq_of_toNat_eq
  have := high.isLt
  simp only [widened, BitVec.toNat_sub, BitVec.toNat_setWidth, BitVec.toNat_ofNat]
  omega

/-- No weight up to 511 hides a change of one byte. -/
theorem nsmul_widened_sub_ne_zero {weight : Nat} (positive : 0 < weight) (small : weight ≤ 511)
    {left right : BitVec 8} (different : left ≠ right) :
    weight • (widened left - widened right) ≠ 0 := by
  -- the difference has the same weight up to sign, so the larger byte may stand first
  have ordered : ∀ {high low : BitVec 8}, low.toNat < high.toNat →
      weight • (widened high - widened low) ≠ 0 := by
    intro high low order vanishes
    rw [widened_sub order.le, nsmul_ofNat] at vanishes
    have divides : 2 ^ (8 + 7 + 1) ∣ weight * (high.toNat - low.toNat) := by
      have remainder := congrArg BitVec.toNat vanishes
      rw [BitVec.toNat_ofNat] at remainder
      exact Nat.dvd_of_mod_eq_zero remainder
    have byte := high.isLt
    exact not_pow_dvd_mul Nat.prime_two positive (by omega) (Nat.sub_pos_of_lt order) (by omega)
      divides
  have unequal : left.toNat ≠ right.toNat := fun same => different (BitVec.eq_of_toNat_eq same)
  rcases Nat.lt_or_gt_of_ne unequal with less | greater
  · rw [← neg_sub, smul_neg, neg_ne_zero]
    exact ordered less
  · exact ordered greater

/-- The arrays differ in exactly one byte. -/
def DiffersInOneByte (left right : Fin n → BitVec 8) : Prop :=
  ∃ position, left position ≠ right position ∧ ∀ i, i ≠ position → left i = right i

/-- The second array is the first with two unequal bytes exchanged. -/
def ExchangesTwoBytes (left right : Fin n → BitVec 8) : Prop :=
  ∃ first second, left first ≠ left second ∧ right = left ∘ Equiv.swap first second

theorem ssxaChecksum_ne_of_substitution (short : n ≤ 511) {left right : Fin n → BitVec 8}
    (differs : DiffersInOneByte left right) :
    ssxaChecksum (List.ofFn left) ≠ ssxaChecksum (List.ofFn right) := by
  obtain ⟨position, changed, others⟩ := differs
  have inside := position.isLt
  rw [ssxaChecksum_ofFn, ssxaChecksum_ofFn, ← sub_ne_zero,
    weightedSum_sub_of_one (widened ∘ left) (widened ∘ right) position
      fun i elsewhere => congrArg widened (others i elsewhere)]
  exact nsmul_widened_sub_ne_zero (by omega) (by omega) changed

theorem ssxaChecksum_ne_of_ordered_exchange (short : n ≤ 511) (data : Fin n → BitVec 8)
    {first second : Fin n} (order : first < second) (unequal : data first ≠ data second) :
    ssxaChecksum (List.ofFn data) ≠ ssxaChecksum (List.ofFn (data ∘ Equiv.swap first second)) := by
  have before : first.val < second.val := order
  have inside := second.isLt
  rw [ssxaChecksum_ofFn, ssxaChecksum_ofFn, ← sub_ne_zero, ← Function.comp_assoc,
    weightedSum_sub_swap (widened ∘ data) order]
  exact nsmul_widened_sub_ne_zero (by omega) (by omega) unequal

theorem ssxaChecksum_ne_of_exchange (short : n ≤ 511) {left right : Fin n → BitVec 8}
    (exchanges : ExchangesTwoBytes left right) :
    ssxaChecksum (List.ofFn left) ≠ ssxaChecksum (List.ofFn right) := by
  obtain ⟨first, second, unequal, rfl⟩ := exchanges
  rcases lt_trichotomy first second with before | same | after
  · exact ssxaChecksum_ne_of_ordered_exchange short left before unequal
  · exact absurd (congrArg left same) unequal
  · rw [Equiv.swap_comm]
    exact ssxaChecksum_ne_of_ordered_exchange short left after unequal.symm

/-- At length 512 the first byte's weight is `2^9`, and a change by `2^7` vanishes. -/
theorem ssxaChecksum_collision :
    ∃ left right : Fin 512 → BitVec 8, DiffersInOneByte left right ∧
      ssxaChecksum (List.ofFn left) = ssxaChecksum (List.ofFn right) := by
  let zeroes : Fin 512 → BitVec 8 := fun _ => 0
  let changed := Function.update zeroes 0 128
  have others : ∀ i, i ≠ 0 → changed i = zeroes i := fun i elsewhere =>
    Function.update_of_ne elsewhere _ _
  refine ⟨changed, zeroes, ⟨0, by simp [changed, zeroes], others⟩, ?_⟩
  rw [ssxaChecksum_ofFn, ssxaChecksum_ofFn, ← sub_eq_zero,
    weightedSum_sub_of_one (widened ∘ changed) (widened ∘ zeroes) 0
      fun i elsewhere => congrArg widened (others i elsewhere)]
  have difference : widened (changed 0) - widened (zeroes 0) = BitVec.ofNat 16 128 := by
    simp [changed, zeroes, widened]
  rw [Function.comp_apply, Function.comp_apply, difference, nsmul_ofNat]
  rfl

/-- Every substitution of one byte and every exchange of two unequal bytes changes
the checksum of up to 511 bytes; at 512 bytes a substitution may not. -/
theorem ssxaChecksum_detects :
    (∀ n ≤ 511, ∀ left right : Fin n → BitVec 8,
      DiffersInOneByte left right ∨ ExchangesTwoBytes left right →
        ssxaChecksum (List.ofFn left) ≠ ssxaChecksum (List.ofFn right)) ∧
    ∃ left right : Fin 512 → BitVec 8, DiffersInOneByte left right ∧
      ssxaChecksum (List.ofFn left) = ssxaChecksum (List.ofFn right) := by
  constructor
  · intro n short left right change
    rcases change with substitution | exchange
    · exact ssxaChecksum_ne_of_substitution short substitution
    · exact ssxaChecksum_ne_of_exchange short exchange
  · exact ssxaChecksum_collision

end LddLearn.Ssxa
