import LddLearn.Ssxa.Checksum
import LddLearn.Ssxa.Sealing
import Mathlib.Data.Fin.Tuple.Take
import Mathlib.Tactic.SplitIfs

/-!
# Damage to a sealed frame

A frame verifies exactly when a combination of its bytes vanishes modulo `2^16`: each covered
byte by its weight in the checksum, the two checksum bytes by -1 and -256. All weights up to the
end of the checksum are different and none of them is zero, so neither a changed byte nor an
exchange of two unequal ones goes unnoticed. The length byte says where the checksum lies and
is not part of this.
-/

set_option autoImplicit false

namespace LddLearn.Ssxa.Frame
open LddLearn.Library.RunningSum

/-! ## The bytes by their weights -/

/-- How a byte counts where `covered` bytes are summed. -/
def weight (covered offset : Nat) : ℤ :=
  if offset < covered then covered - offset
  else if offset = covered then -1
  else if offset = covered + 1 then -256
  else 0

def values (msg : Frame) : Fin protocolSize → ℤ := fun offset => (msg offset).toNat

/-- What the checksum is off by. -/
def syndrome (covered : Nat) (msg : Frame) : ℤ :=
  combination (fun offset => weight covered offset.val) msg.values

section Weights
variable {covered first second offset : Nat}

theorem weight_eq_zero_iff : weight covered offset = 0 ↔ covered + 2 ≤ offset := by
  constructor
  · intro nothing
    unfold weight at nothing
    split_ifs at nothing <;> omega
  · intro behind
    unfold weight
    split_ifs <;> omega

theorem weight_bounds (fits : covered ≤ 254) :
    -256 ≤ weight covered offset ∧ weight covered offset ≤ 254 := by
  unfold weight
  split_ifs <;> omega

/-- No two bytes up to the end of the checksum weigh the same. -/
theorem weight_injective (inside : first < covered + 2)
    (same : weight covered first = weight covered second) : first = second := by
  unfold weight at same
  split_ifs at same <;> omega

end Weights

/-! ## Verification as a divisibility -/

theorem toNat_value16_littleEndian (first second : BitVec 8) :
    (ByteOrder.littleEndian.value16 first second).toNat = second.toNat * 256 + first.toNat := by
  have low := first.isLt
  rw [ByteOrder.value16, BitVec.toNat_append, ← Nat.shiftLeft_add_eq_or_of_lt low,
    Nat.shiftLeft_eq]

theorem toNat_ssxaChecksum_firstBytes (msg : Frame) {covered : Nat} (fits : covered ≤ protocolSize) :
    (ssxaChecksum (msg.firstBytes covered)).toNat =
      (∑ i ∈ Finset.range covered, (covered - i) * (msg.byteAt i).toNat) % 65536 := by
  have bytes : msg.firstBytes covered = List.ofFn (Fin.take covered fits msg) :=
    (Fin.ofFn_take_eq_take_ofFn fits msg).symm
  rw [bytes, toNat_ssxaChecksum, ← Fin.sum_univ_eq_sum_range]
  congr 1
  apply Finset.sum_congr rfl
  intro i _
  rw [byteAt_of_lt msg (lt_of_lt_of_le i.isLt fits)]
  rfl

/-- The checksum's sum, less what is stored. -/
theorem syndrome_eq (msg : Frame) {covered : Nat} (fits : covered ≤ 254) :
    msg.syndrome covered =
      (∑ i ∈ Finset.range covered, (covered - i) * (msg.byteAt i).toNat : Nat) -
        (msg.byteAt covered).toNat - 256 * (msg.byteAt (covered + 1)).toNat := by
  have byOffset : msg.syndrome covered =
      ∑ i ∈ Finset.range protocolSize, weight covered i * (msg.byteAt i).toNat := by
    rw [← Fin.sum_univ_eq_sum_range, syndrome, combination]
    apply Finset.sum_congr rfl
    intro offset _
    rw [byteAt_of_lt msg offset.isLt]
    rfl
  have behind (i : Nat) (after : covered + 2 ≤ i) :
      weight covered i * ((msg.byteAt i).toNat : ℤ) = 0 := by
    rw [weight_eq_zero_iff.mpr after, zero_mul]
  have summed : (∑ i ∈ Finset.range covered, weight covered i * ((msg.byteAt i).toNat : ℤ)) =
      (∑ i ∈ Finset.range covered, (covered - i) * (msg.byteAt i).toNat : Nat) := by
    rw [Nat.cast_sum]
    apply Finset.sum_congr rfl
    intro i member
    have inside : i < covered := Finset.mem_range.mp member
    simp [weight, inside, Nat.cast_sub inside.le]
  have low : weight covered covered = -1 := by simp [weight]
  have high : weight covered (covered + 1) = -256 := by simp [weight]
  rw [byOffset, Finset.eventually_constant_sum behind (by unfold protocolSize; omega),
    Finset.sum_range_succ, Finset.sum_range_succ, summed, low, high]
  ring

theorem verifies_iff_dvd (msg : Frame) (fits : msg.datalen ≤ 248) :
    msg.Verifies ↔ (65536 : ℤ) ∣ msg.syndrome (6 + msg.datalen) := by
  have low := (msg.byteAt (6 + msg.datalen)).isLt
  have high := (msg.byteAt (6 + msg.datalen + 1)).isLt
  unfold Verifies
  rw [show 7 + msg.datalen = 6 + msg.datalen + 1 by omega, ← BitVec.toNat_inj,
    toNat_value16_littleEndian, syndrome_eq msg (by omega),
    toNat_ssxaChecksum_firstBytes msg (by unfold protocolSize; omega)]
  omega

/-! ## What a change makes of it -/

/-- A product of a weight, or a difference of two, and a difference of two bytes. -/
theorem not_dvd_mul {factor difference : ℤ} (nonzero : factor ≠ 0) (small : factor.natAbs ≤ 511)
    (different : difference ≠ 0) (byte : difference.natAbs ≤ 255) :
    ¬ (65536 : ℤ) ∣ factor * difference := by
  intro divides
  have natural : 2 ^ (8 + 7 + 1) ∣ factor.natAbs * difference.natAbs := by
    rw [← Int.natAbs_mul]
    exact Int.natCast_dvd.mp divides
  exact not_pow_dvd_mul Nat.prime_two (Int.natAbs_pos.mpr nonzero) (by omega)
    (Int.natAbs_pos.mpr different) (by omega) natural

theorem values_sub_small (left right : BitVec 8) :
    ((left.toNat : ℤ) - (right.toNat : ℤ)).natAbs ≤ 255 := by
  have := left.isLt
  have := right.isLt
  omega

theorem values_sub_ne_zero {left right : BitVec 8} (different : left ≠ right) :
    (left.toNat : ℤ) - (right.toNat : ℤ) ≠ 0 := by
  intro same
  exact different (BitVec.eq_of_toNat_eq (by omega))

section Damage
variable {msg : Frame}

theorem datalen_of_same {other : Frame} (same : other ⟨5, by decide⟩ = msg ⟨5, by decide⟩) :
    other.datalen = msg.datalen := by
  unfold datalen
  rw [byteAt_of_lt other (by decide), byteAt_of_lt msg (by decide), same]

/-- Of a frame that verifies, one byte other than the length is replaced. -/
theorem update_verifies_iff (fits : msg.datalen ≤ 248) (sound : msg.Verifies)
    {offset : Fin protocolSize} {value : BitVec 8} (notLength : offset.val ≠ 5)
    (changed : value ≠ msg offset) :
    Verifies (Function.update msg offset value) ↔ 8 + msg.datalen ≤ offset.val := by
  have length : Frame.datalen (Function.update msg offset value) = msg.datalen :=
    datalen_of_same (Function.update_of_ne (fun here => notLength (congrArg Fin.val here).symm) ..)
  have updated : values (Function.update msg offset value) =
      Function.update msg.values offset (value.toNat : ℤ) := by
    funext i
    by_cases here : i = offset
    · subst here
      simp [values]
    · simp [values, here]
  have before : (65536 : ℤ) ∣ msg.syndrome (6 + msg.datalen) := (verifies_iff_dvd msg fits).mp sound
  rw [verifies_iff_dvd _ (length ▸ fits), length, syndrome, updated, combination_update,
    ← syndrome, dvd_add_right before]
  constructor
  · intro divides
    by_contra inside
    have counts : weight (6 + msg.datalen) offset.val ≠ 0 := by
      rw [Ne, weight_eq_zero_iff]
      omega
    have bounds : -256 ≤ weight (6 + msg.datalen) offset.val ∧ weight (6 + msg.datalen) offset.val ≤ 254 :=
      weight_bounds (by omega)
    exact not_dvd_mul counts (by omega) (values_sub_ne_zero changed) (values_sub_small _ _) divides
  · intro behind
    have nothing : weight (6 + msg.datalen) offset.val = 0 := by
      rw [weight_eq_zero_iff]
      omega
    rw [nothing, zero_mul]
    exact dvd_zero _

/-- Of a frame that verifies, two unequal bytes other than the length are exchanged. -/
theorem swap_verifies_iff (fits : msg.datalen ≤ 248) (sound : msg.Verifies)
    {first second : Fin protocolSize} (notLength : first.val ≠ 5 ∧ second.val ≠ 5)
    (unequal : msg first ≠ msg second) :
    Verifies (msg ∘ Equiv.swap first second) ↔
      8 + msg.datalen ≤ first.val ∧ 8 + msg.datalen ≤ second.val := by
  have distinct : first ≠ second := fun same => unequal (congrArg msg same)
  have length : Frame.datalen (msg ∘ Equiv.swap first second) = msg.datalen := by
    apply datalen_of_same
    rw [Function.comp_apply, Equiv.swap_apply_of_ne_of_ne]
    · exact fun here => notLength.1 (congrArg Fin.val here).symm
    · exact fun here => notLength.2 (congrArg Fin.val here).symm
  have exchanged : values (msg ∘ Equiv.swap first second) =
      msg.values ∘ Equiv.swap first second := rfl
  have before : (65536 : ℤ) ∣ msg.syndrome (6 + msg.datalen) := (verifies_iff_dvd msg fits).mp sound
  rw [verifies_iff_dvd _ (length ▸ fits), length, syndrome, exchanged, combination_swap _ _ distinct,
    ← syndrome, dvd_add_right before]
  constructor
  · intro divides
    by_contra inside
    have unlike : weight (6 + msg.datalen) first.val - weight (6 + msg.datalen) second.val ≠ 0 := by
      intro same
      have equal : weight (6 + msg.datalen) first.val = weight (6 + msg.datalen) second.val := by
        omega
      by_cases early : first.val < 6 + msg.datalen + 2
      · exact distinct (Fin.ext (weight_injective early equal))
      · exact distinct (Fin.ext (weight_injective (by omega) equal.symm)).symm
    have one : -256 ≤ weight (6 + msg.datalen) first.val ∧ weight (6 + msg.datalen) first.val ≤ 254 :=
      weight_bounds (by omega)
    have other : -256 ≤ weight (6 + msg.datalen) second.val ∧ weight (6 + msg.datalen) second.val ≤ 254 :=
      weight_bounds (by omega)
    exact not_dvd_mul unlike (by omega) (values_sub_ne_zero unequal.symm) (values_sub_small _ _)
      divides
  · rintro ⟨one, other⟩
    have nothing : weight (6 + msg.datalen) first.val = 0 := by
      rw [weight_eq_zero_iff]
      omega
    have nothing' : weight (6 + msg.datalen) second.val = 0 := by
      rw [weight_eq_zero_iff]
      omega
    rw [nothing, nothing', sub_zero, zero_mul]
    exact dvd_zero _

end Damage

instance (msg : Frame) : Decidable msg.Verifies := by
  unfold Verifies
  infer_instance

end LddLearn.Ssxa.Frame

namespace LddLearn.Pcidev02
open LddLearn.Ssxa

theorem sealed_of_putCrc {order : ByteOrder} {msg sealed : Frame}
    (made : putCrc order msg = some sealed) :
    msg.datalen ≤ 248 ∧ sealed.datalen = msg.datalen ∧ sealed.Verifies := by
  have fits : msg.datalen ≤ 248 := by
    by_contra long
    rw [putCrc_of_gt order (by omega)] at made
    cases made
  obtain ⟨_, other, made', kept, sound, _⟩ := seals_of_le order fits
  obtain rfl : sealed = other := Option.some.inj (made.symm.trans made')
  exact ⟨fits, congrArg BitVec.toNat (kept 5 (by omega) (by omega)), sound⟩

/-- In a frame that `put_crc` has sealed, a replaced byte shows, and so does an exchange of two
unequal bytes, exactly when the frame's first `8 + datalen` bytes are concerned; the length byte
is left out. -/
theorem damage_shows_iff {order : ByteOrder} {msg sealed : Frame}
    (made : putCrc order msg = some sealed) :
    (∀ (offset : Fin protocolSize) (value : BitVec 8), offset.val ≠ 5 → value ≠ sealed offset →
      (¬ Frame.Verifies (Function.update sealed offset value) ↔ offset.val < 8 + msg.datalen)) ∧
    ∀ first second : Fin protocolSize, first.val ≠ 5 → second.val ≠ 5 →
      sealed first ≠ sealed second →
      (¬ Frame.Verifies (sealed ∘ Equiv.swap first second) ↔
        first.val < 8 + msg.datalen ∨ second.val < 8 + msg.datalen) := by
  obtain ⟨fits, length, sound⟩ := sealed_of_putCrc made
  rw [← length] at fits ⊢
  constructor
  · intro offset value notLength changed
    rw [Frame.update_verifies_iff fits sound notLength changed, not_le]
  · intro first second one other unequal
    rw [Frame.swap_verifies_iff fits sound ⟨one, other⟩ unequal, not_and_or, not_le, not_le]

/-- A message of 65 bytes of payload, all of them 'A'. -/
theorem damage_shows_iff_letters :
    ∃ sealed, putCrc .bigEndian (fun _ => 0x41) = some sealed ∧
      (∀ (offset : Fin protocolSize) (value : BitVec 8), offset.val ≠ 5 → value ≠ sealed offset →
        (¬ Frame.Verifies (Function.update sealed offset value) ↔ offset.val < 73)) ∧
      ∀ first second : Fin protocolSize, first.val ≠ 5 → second.val ≠ 5 →
        sealed first ≠ sealed second →
        (¬ Frame.Verifies (sealed ∘ Equiv.swap first second) ↔ first.val < 73 ∨ second.val < 73) := by
  obtain ⟨sealed, made⟩ := Option.isSome_iff_exists.mp
    (show (putCrc .bigEndian fun _ => 0x41).isSome = true by decide +kernel)
  exact ⟨sealed, made, damage_shows_iff made⟩

-- Why the length byte is left out: a changed one may find another checksum in the payload.
example :
    let msg := Frame.zeroed.store 8 [6]
    putCrc .littleEndian msg = some msg ∧
      Frame.Verifies (Function.update msg ⟨5, by decide⟩ 2) := by
  constructor
  · rw [putCrc_of_le _ (by decide)]
    congr 1
    decide +kernel
  · decide +kernel

end LddLearn.Pcidev02

namespace LddLearn.Ssxa

/-! ## The two seals compared -/

theorem bytes16_littleEndian_iff (order : ByteOrder) (value : BitVec 16) :
    order.bytes16 value = ByteOrder.littleEndian.bytes16 value ↔
      order = .littleEndian ∨ 257 ∣ value.toNat := by
  cases order with
  | littleEndian => simp
  | bigEndian => simpa using bytes16_same_iff value

/-- Of all pairs of bytes behind the payload only the checksum's verifies. -/
theorem verifies_store_iff {msg : Frame} (fits : msg.datalen ≤ 248) {bytes : List (BitVec 8)}
    (pair : bytes.length = 2) :
    (msg.store (6 + msg.datalen) bytes).Verifies ↔
      bytes = ByteOrder.littleEndian.bytes16 (ssxaChecksum (msg.firstBytes (6 + msg.datalen))) := by
  obtain ⟨low, high, rfl⟩ := List.length_eq_two.mp pair
  have inside : 6 + msg.datalen + 1 < protocolSize := by
    unfold protocolSize
    omega
  have first : (msg.store (6 + msg.datalen) [low, high]).byteAt (6 + msg.datalen) = low :=
    msg.byteAt_store _ 0 (by omega) (by simp)
  have second : (msg.store (6 + msg.datalen) [low, high]).byteAt (6 + msg.datalen + 1) = high :=
    msg.byteAt_store _ 1 inside (by simp)
  unfold Frame.Verifies
  rw [msg.datalen_store _ (by omega), msg.firstBytes_store _ le_rfl,
    show 7 + msg.datalen = 6 + msg.datalen + 1 by omega, first, second]
  generalize ssxaChecksum (msg.firstBytes (6 + msg.datalen)) = crc
  constructor
  · rintro rfl
    simp only [ByteOrder.bytes16, ByteOrder.value16, byte_above high low 0,
      BitVec.extractLsb'_append_eq_right, BitVec.extractLsb'_eq_self]
  · intro same
    obtain ⟨one, other, bytes, whole⟩ := value16_bytes16 .littleEndian crc
    rw [bytes] at same
    obtain ⟨rfl, rfl⟩ : low = one ∧ high = other := by simpa using same
    exact whole

end LddLearn.Ssxa

namespace LddLearn.PciFake
open LddLearn.Ssxa

/-- The two drivers seal a message alike, and pci-fake's frame verifies, exactly where the host
is little-endian or the two bytes of the checksum are the same. -/
theorem putCrc_sound_iff (order : ByteOrder) {msg : Frame} (fits : msg.datalen ≤ 248) :
    ∃ frame sealed, putCrc order msg = some frame ∧ Pcidev02.putCrc order msg = some sealed ∧
      (frame.Verifies ↔ order = .littleEndian ∨
        257 ∣ (ssxaChecksum (msg.firstBytes (6 + msg.datalen))).toNat) ∧
      (frame = sealed ↔ frame.Verifies) := by
  have verifies := verifies_store_iff fits (bytes16_length order
    (ssxaChecksum (msg.firstBytes (6 + msg.datalen))))
  have sound := (verifies_store_iff fits (bytes16_length .littleEndian
    (ssxaChecksum (msg.firstBytes (6 + msg.datalen))))).mpr rfl
  refine ⟨_, _, putCrc_of_le order fits, Pcidev02.putCrc_of_le order fits, ?_, ?_⟩
  · rw [verifies, bytes16_littleEndian_iff]
  · constructor
    · intro same
      rwa [same]
    · intro own
      rw [verifies.mp own]

theorem putCrc_sound_iff_letters :
    ∃ frame sealed, putCrc .bigEndian (fun _ => 0x41) = some frame ∧
      Pcidev02.putCrc .bigEndian (fun _ => 0x41) = some sealed ∧
      (frame.Verifies ↔ ByteOrder.bigEndian = .littleEndian ∨
        257 ∣ (ssxaChecksum (Frame.firstBytes (fun _ => 0x41) 71)).toNat) ∧
      (frame = sealed ↔ frame.Verifies) :=
  putCrc_sound_iff .bigEndian (show Frame.datalen (fun _ => 0x41) ≤ 248 by decide)

/-! ## The key message -/

/-- The zeroed message with the processor id's bytes, the command 'F' and sixteen bytes '1'. -/
def encrykeyHeader (processorId : List (BitVec 8)) : Frame :=
  (((Frame.zeroed.store 0 processorId).store 4 [0x46]).store 5 [16]).store 6 (List.replicate 16 0x31)

/-- The sums do not wrap. -/
theorem encrykey_checksum (a b c d : BitVec 8) :
    (ssxaChecksum ((encrykeyHeader [a, b, c, d]).firstBytes 22)).toNat =
      22 * a.toNat + 21 * b.toNat + 20 * c.toNat + 19 * d.toNat + 8196 := by
  let header := encrykeyHeader [a, b, c, d]
  have head : ∑ i ∈ Finset.range 6, (22 - i) * (header.byteAt i).toNat =
      22 * a.toNat + 21 * b.toNat + 20 * c.toNat + 19 * d.toNat + 18 * 0x46 + 17 * 16 := by
    simp only [Finset.sum_range_succ, Finset.sum_range_zero, Nat.zero_add]
    rfl
  have key (i : Nat) (inside : i < 16) : header.byteAt (6 + i) = 0x31 := by
    have listed : i < (List.replicate 16 (0x31 : BitVec 8)).length := by
      rwa [List.length_replicate]
    rw [show header = (((Frame.zeroed.store 0 [a, b, c, d]).store 4 [0x46]).store 5 [16]).store 6
        (List.replicate 16 0x31) from rfl,
      Frame.byteAt_store _ 6 i (by unfold protocolSize; omega) listed]
    exact List.getElem_replicate _
  have payload : ∑ i ∈ Finset.range 16, (22 - (6 + i)) * (header.byteAt (6 + i)).toNat = 6664 := by
    rw [Finset.sum_congr rfl fun i member => by rw [key i (Finset.mem_range.mp member)]]
    rfl
  have first := a.isLt
  have second := b.isLt
  have third := c.isLt
  have fourth := d.isLt
  rw [Frame.toNat_ssxaChecksum_firstBytes _ (by decide),
    show Finset.range 22 = Finset.range (6 + 16) from rfl, Finset.sum_range_add, head, payload]
  omega

/-- `make_encrykey_msg` is never stopped, and its message verifies on every little-endian host;
on a big-endian one it does for the chip indices whose weighted bytes and 8196 are a multiple
of 257. -/
theorem makeEncrykeyMsg_verifies_iff (order : ByteOrder) (chipIndex : BitVec 32) :
    ∃ msg, makeEncrykeyMsg order chipIndex = some msg ∧
      (msg.Verifies ↔ order = .littleEndian ∨
        257 ∣ 22 * (chipByte chipIndex 0).toNat + 21 * (chipByte chipIndex 1).toNat +
          20 * (chipByte chipIndex 2).toNat + 19 * (chipByte chipIndex 3).toNat + 8196) := by
  let header := encrykeyHeader (ByteOrder.littleEndian.bytes32 chipIndex)
  have made : makeEncrykeyMsg order chipIndex = putCrc order header := by
    unfold makeEncrykeyMsg
    rw [bytes32_cpuToLe32]
    rfl
  have length : header.datalen = 16 := rfl
  have fits : header.datalen ≤ 248 := by omega
  rw [made, putCrc_of_le order fits]
  refine ⟨_, rfl, ?_⟩
  rw [verifies_store_iff fits (bytes16_length order _), bytes16_littleEndian_iff, length,
    ← encrykey_checksum]
  rfl

end LddLearn.PciFake
