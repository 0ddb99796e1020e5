import LddLearn.Ssxa.Frame

/-!
# Sealed frames and the reset message

pcidev-02's `put_crc` stores the checksum little-endian on every host, after the
payload it covers. pci-fake's stores it as the host does. Each driver has its own
`make_rest_msg`: pcidev-02 converts the checksum and not the processor id, pci-fake
the id and not the checksum.
-/

set_option autoImplicit false

namespace LddLearn.Ssxa

/-! ## Integers as bytes -/

theorem byte_above {w : Nat} (high : BitVec w) (low : BitVec 8) (start : Nat) :
    (high ++ low).extractLsb' (start + 8) 8 = high.extractLsb' start 8 := by
  rw [BitVec.extractLsb'_append_eq_of_le (Nat.le_add_left 8 start), Nat.add_sub_cancel]

theorem bytes16_cpuToLe16 (order : ByteOrder) (value : BitVec 16) :
    order.bytes16 (cpuToLe16 order value) = ByteOrder.littleEndian.bytes16 value := by
  cases order with
  | littleEndian => rfl
  | bigEndian =>
    simp only [ByteOrder.bytes16, cpuToLe16, byte_above _ _ 0, BitVec.extractLsb'_append_eq_right,
      BitVec.extractLsb'_eq_self]
    rfl

theorem bytes32_cpuToLe32 (order : ByteOrder) (value : BitVec 32) :
    order.bytes32 (cpuToLe32 order value) = ByteOrder.littleEndian.bytes32 value := by
  cases order with
  | littleEndian => rfl
  | bigEndian =>
    simp only [ByteOrder.bytes32, cpuToLe32, byte_above _ _ 16, byte_above _ _ 8, byte_above _ _ 0,
      BitVec.extractLsb'_append_eq_right, BitVec.extractLsb'_eq_self]
    rfl

theorem bytes16_length (order : ByteOrder) (value : BitVec 16) :
    (order.bytes16 value).length = 2 := by
  cases order <;> rfl

theorem value16_bytes16 (order : ByteOrder) (value : BitVec 16) :
    ∃ first second, order.bytes16 value = [first, second] ∧
      order.value16 first second = value := by
  have whole : value.extractLsb' 8 8 ++ value.extractLsb' 0 8 = value := by
    rw [BitVec.extractLsb'_append_extractLsb'_eq_extractLsb' (by rfl)]
    exact BitVec.extractLsb'_eq_self
  cases order with
  | littleEndian => exact ⟨_, _, rfl, whole⟩
  | bigEndian => exact ⟨_, _, rfl, whole⟩

/-! ## Bytes of a frame -/

namespace Frame

theorem byteAt_of_lt (msg : Frame) {offset : Nat} (inside : offset < protocolSize) :
    msg.byteAt offset = msg ⟨offset, inside⟩ :=
  dif_pos inside

theorem byteAt_store (msg : Frame) (offset index : Nat) {bytes : List (BitVec 8)}
    (inside : offset + index < protocolSize) (listed : index < bytes.length) :
    (msg.store offset bytes).byteAt (offset + index) = bytes[index] := by
  rw [byteAt_of_lt _ inside]
  unfold store
  rw [if_pos (Nat.le_add_right offset index), Nat.add_sub_cancel_left,
    List.getElem?_eq_getElem listed, Option.getD_some]

theorem byteAt_store_of_outside (msg : Frame) {offset other : Nat} (bytes : List (BitVec 8))
    (outside : other < offset ∨ offset + bytes.length ≤ other) :
    (msg.store offset bytes).byteAt other = msg.byteAt other := by
  unfold byteAt
  by_cases inside : other < protocolSize
  · rw [dif_pos inside, dif_pos inside]
    unfold store
    rcases outside with before | after
    · rw [if_neg (Nat.not_le.mpr before)]
    · rw [List.getElem?_eq_none (by simp only; omega), Option.getD_none, ite_self]
  · rw [dif_neg inside, dif_neg inside]

/-- A second store of as many bytes at the same place leaves nothing of the first. -/
theorem store_store (msg : Frame) (offset : Nat) (first second : List (BitVec 8))
    (lengths : first.length = second.length) :
    (msg.store offset first).store offset second = msg.store offset second := by
  funext index
  unfold store
  by_cases reached : offset ≤ index.val
  · rw [if_pos reached, if_pos reached, if_pos reached]
    by_cases listed : index.val - offset < second.length
    · rw [List.getElem?_eq_getElem listed, Option.getD_some, Option.getD_some]
    · rw [List.getElem?_eq_none (by omega), List.getElem?_eq_none (by omega)]
      rfl
  · rw [if_neg reached, if_neg reached, if_neg reached]

/-- A stored `u16` reads back. -/
theorem value16_store (msg : Frame) (order : ByteOrder) (value : BitVec 16) {offset : Nat}
    (inside : offset + 1 < protocolSize) :
    let stored := msg.store offset (order.bytes16 value)
    order.value16 (stored.byteAt offset) (stored.byteAt (offset + 1)) = value := by
  obtain ⟨first, second, bytes, read⟩ := value16_bytes16 order value
  have low : (msg.store offset [first, second]).byteAt offset = first :=
    msg.byteAt_store offset 0 (by omega) (by simp)
  have high : (msg.store offset [first, second]).byteAt (offset + 1) = second :=
    msg.byteAt_store offset 1 inside (by simp)
  rw [bytes]
  simp only [low, high, read]

theorem firstBytes_store (msg : Frame) {offset len : Nat} (bytes : List (BitVec 8))
    (before : len ≤ offset) : (msg.store offset bytes).firstBytes len = msg.firstBytes len := by
  unfold firstBytes
  apply List.ext_getElem
  · simp
  · intro index left right
    obtain ⟨early, inside⟩ : index < len ∧ index < protocolSize := by simpa using left
    have kept := msg.byteAt_store_of_outside bytes (Or.inl (lt_of_lt_of_le early before))
    rw [byteAt_of_lt _ inside, byteAt_of_lt _ inside] at kept
    simpa using kept

theorem datalen_store (msg : Frame) {offset : Nat} (bytes : List (BitVec 8)) (after : 5 < offset) :
    (msg.store offset bytes).datalen = msg.datalen :=
  congrArg BitVec.toNat (msg.byteAt_store_of_outside bytes (Or.inl after))

/-- The little-endian value right after the payload is the checksum of what precedes it. -/
def Verifies (msg : Frame) : Prop :=
  ByteOrder.littleEndian.value16 (msg.byteAt (6 + msg.datalen)) (msg.byteAt (7 + msg.datalen)) =
    ssxaChecksum (msg.firstBytes (6 + msg.datalen))

end Frame

end LddLearn.Ssxa

namespace LddLearn.Pcidev02
open LddLearn.Ssxa

/-- `none` is the `BUG_ON`. The checksum is stored as the host does, then converted in place. -/
def putCrc (order : ByteOrder) (msg : Frame) : Option Frame :=
  if msg.datalen > SSX10A_PROTO_DATA_LEN - 2 then none
  else
    let offset := 6 + msg.datalen
    let summed := msg.store offset (order.bytes16 (ssxaChecksum (msg.firstBytes offset)))
    let crc := order.value16 (summed.byteAt offset) (summed.byteAt (offset + 1))
    some (summed.store offset (order.bytes16 (cpuToLe16 order crc)))

theorem putCrc_of_gt (order : ByteOrder) {msg : Frame} (long : 248 < msg.datalen) :
    putCrc order msg = none :=
  if_pos long

/-- What is stored is the checksum's little-endian bytes, whatever the host. -/
theorem putCrc_of_le (order : ByteOrder) {msg : Frame} (fits : msg.datalen ≤ 248) :
    putCrc order msg = some (msg.store (6 + msg.datalen)
      (ByteOrder.littleEndian.bytes16 (ssxaChecksum (msg.firstBytes (6 + msg.datalen))))) := by
  have inside : 6 + msg.datalen + 1 < protocolSize := by
    unfold protocolSize
    omega
  have read := msg.value16_store order (ssxaChecksum (msg.firstBytes (6 + msg.datalen))) inside
  unfold putCrc
  rw [if_neg (show ¬ msg.datalen > SSX10A_PROTO_DATA_LEN - 2 from Nat.not_lt.mpr fits)]
  simp only [read, bytes16_cpuToLe16]
  rw [Frame.store_store]
  rw [bytes16_length, bytes16_length]

/-- A sealed message: its two checksum bytes lie in the struct, nothing else of the
message changed, it verifies, and sealing it again returns it. -/
def Seals (order : ByteOrder) (msg : Frame) : Prop :=
  7 + msg.datalen < protocolSize ∧ ∃ sealed, putCrc order msg = some sealed ∧
    (∀ offset, offset ≠ 6 + msg.datalen → offset ≠ 7 + msg.datalen →
      sealed.byteAt offset = msg.byteAt offset) ∧
    sealed.Verifies ∧ putCrc order sealed = some sealed

theorem seals_of_le (order : ByteOrder) {msg : Frame} (fits : msg.datalen ≤ 248) :
    Seals order msg := by
  let crc := ssxaChecksum (msg.firstBytes (6 + msg.datalen))
  let bytes := ByteOrder.littleEndian.bytes16 crc
  let sealed := msg.store (6 + msg.datalen) bytes
  have inside : 7 + msg.datalen < protocolSize := by
    unfold protocolSize
    omega
  have result : putCrc order msg = some sealed := putCrc_of_le order fits
  have datalen : sealed.datalen = msg.datalen := msg.datalen_store bytes (by omega)
  have payload : sealed.firstBytes (6 + msg.datalen) = msg.firstBytes (6 + msg.datalen) :=
    msg.firstBytes_store bytes le_rfl
  refine ⟨inside, sealed, result, ?_, ?_, ?_⟩
  · intro offset notLow notHigh
    apply Frame.byteAt_store_of_outside
    have length : bytes.length = 2 := bytes16_length _ _
    omega
  · unfold Frame.Verifies
    rw [datalen, payload, show 7 + msg.datalen = 6 + msg.datalen + 1 by omega]
    exact msg.value16_store .littleEndian crc (by omega)
  · rw [putCrc_of_le order (datalen ▸ fits), datalen, payload]
    exact congrArg some (msg.store_store _ bytes bytes rfl)

/-- `put_crc` seals every message whose checksum fits, and stops at the `BUG_ON`
for every other one. -/
theorem putCrc_seals (order : ByteOrder) (msg : Frame) :
    (msg.datalen ≤ 248 → Seals order msg) ∧ (248 < msg.datalen → putCrc order msg = none) :=
  ⟨seals_of_le order, putCrc_of_gt order⟩

end LddLearn.Pcidev02

namespace LddLearn.Ssxa

/-! ## The reset message -/

def Frame.zeroed : Frame := fun _ => 0

/-- The zeroed message with the processor id's bytes, the command 'A' and length 0. -/
def restHeader (processorId : List (BitVec 8)) : Frame :=
  ((Frame.zeroed.store 0 processorId).store 4 [0x41]).store 5 [0]

end LddLearn.Ssxa

namespace LddLearn.Pcidev02
open LddLearn.Ssxa

def makeRestMsg (order : ByteOrder) (chipIndex : BitVec 32) : Option Frame :=
  putCrc order (restHeader (order.bytes32 chipIndex))

end LddLearn.Pcidev02

namespace LddLearn.PciFake
open LddLearn.Ssxa

def makeRestMsg (order : ByteOrder) (chipIndex : BitVec 32) : Option Frame :=
  putCrc order (restHeader (order.bytes32 (cpuToLe32 order chipIndex)))

end LddLearn.PciFake

namespace LddLearn.Ssxa

/-- A finished reset message. -/
def restImage (processorId crc : List (BitVec 8)) : Frame := (restHeader processorId).store 6 crc

def restCrc (processorId : List (BitVec 8)) : BitVec 16 :=
  ssxaChecksum ((restHeader processorId).firstBytes 6)

/-- Neither of the sums wraps. -/
theorem restCrc_toNat (a b c d : BitVec 8) :
    (restCrc [a, b, c, d]).toNat =
      6 * a.toNat + 5 * b.toNat + 4 * c.toNat + 3 * d.toNat + 130 := by
  have covered : (restHeader [a, b, c, d]).firstBytes 6 = [a, b, c, d, 0x41, 0] := rfl
  unfold restCrc
  rw [covered]
  simp only [ssxaChecksum, List.foldl_cons, List.foldl_nil]
  bv_omega

end LddLearn.Ssxa

namespace LddLearn.Pcidev02
open LddLearn.Ssxa

theorem makeRestMsg_image (order : ByteOrder) (chipIndex : BitVec 32) :
    makeRestMsg order chipIndex = some (restImage (order.bytes32 chipIndex)
      (ByteOrder.littleEndian.bytes16 (restCrc (order.bytes32 chipIndex)))) := by
  have short : (restHeader (order.bytes32 chipIndex)).datalen ≤ 248 := Nat.zero_le _
  exact putCrc_of_le order short

end LddLearn.Pcidev02

namespace LddLearn.PciFake
open LddLearn.Ssxa

theorem putCrc_of_le (order : ByteOrder) {msg : Frame} (fits : msg.datalen ≤ 248) :
    putCrc order msg = some (msg.store (6 + msg.datalen)
      (order.bytes16 (ssxaChecksum (msg.firstBytes (6 + msg.datalen))))) :=
  if_neg (show ¬ msg.datalen > SSX10A_PROTO_DATA_LEN - 2 from Nat.not_lt.mpr fits)

theorem makeRestMsg_image (order : ByteOrder) (chipIndex : BitVec 32) :
    makeRestMsg order chipIndex = some (restImage (ByteOrder.littleEndian.bytes32 chipIndex)
      (order.bytes16 (restCrc (ByteOrder.littleEndian.bytes32 chipIndex)))) := by
  unfold makeRestMsg
  rw [bytes32_cpuToLe32]
  have short : (restHeader (ByteOrder.littleEndian.bytes32 chipIndex)).datalen ≤ 248 :=
    Nat.zero_le _
  exact putCrc_of_le order short

end LddLearn.PciFake

namespace LddLearn.Ssxa

/-- The same bytes from either driver on a host of either byte order. -/
def OneWireImage (chipIndex : BitVec 32) : Prop :=
  ∃ image : Frame, ∀ order, Pcidev02.makeRestMsg order chipIndex = some image ∧
    PciFake.makeRestMsg order chipIndex = some image

/-- On little-endian hosts the two drivers agree about every chip index. -/
theorem makeRestMsg_littleEndian (chipIndex : BitVec 32) :
    Pcidev02.makeRestMsg .littleEndian chipIndex = PciFake.makeRestMsg .littleEndian chipIndex := by
  rw [Pcidev02.makeRestMsg_image, PciFake.makeRestMsg_image]

/-- Byte `k` of a chip index, least significant first. -/
def chipByte (chipIndex : BitVec 32) (k : Nat) : BitVec 8 := chipIndex.extractLsb' (8 * k) 8

/-- Read from either end the four bytes are the same. -/
def SameBackwards (chipIndex : BitVec 32) : Prop :=
  chipByte chipIndex 0 = chipByte chipIndex 3 ∧ chipByte chipIndex 1 = chipByte chipIndex 2

theorem bytes32_littleEndian (chipIndex : BitVec 32) :
    ByteOrder.littleEndian.bytes32 chipIndex =
      [chipByte chipIndex 0, chipByte chipIndex 1, chipByte chipIndex 2, chipByte chipIndex 3] := rfl

theorem bytes32_bigEndian (chipIndex : BitVec 32) :
    ByteOrder.bigEndian.bytes32 chipIndex =
      [chipByte chipIndex 3, chipByte chipIndex 2, chipByte chipIndex 1, chipByte chipIndex 0] := rfl

/-- pcidev-02's two images agree exactly when the unconverted id reads the same backwards. -/
theorem makeRestMsg_pcidev02_iff (chipIndex : BitVec 32) :
    Pcidev02.makeRestMsg .bigEndian chipIndex = Pcidev02.makeRestMsg .littleEndian chipIndex ↔
      SameBackwards chipIndex := by
  rw [Pcidev02.makeRestMsg_image, Pcidev02.makeRestMsg_image, Option.some_inj,
    bytes32_littleEndian, bytes32_bigEndian]
  constructor
  · intro same
    exact ⟨(congrArg (Frame.byteAt · 0) same).symm, (congrArg (Frame.byteAt · 1) same).symm⟩
  · rintro ⟨outer, inner⟩
    rw [outer, inner]

/-- A 16-bit value has equal bytes exactly when 257 divides it. -/
theorem bytes16_same_iff (value : BitVec 16) :
    ByteOrder.bigEndian.bytes16 value = ByteOrder.littleEndian.bytes16 value ↔
      257 ∣ value.toNat := by
  have bound := value.isLt
  have high : value.toNat / 256 < 256 := by omega
  simp only [ByteOrder.bytes16, List.reverse_cons, List.reverse_nil, List.nil_append,
    List.singleton_append, List.cons.injEq, and_true, ← BitVec.toNat_inj, BitVec.extractLsb'_toNat,
    Nat.shiftRight_eq_div_pow, Nat.reducePow, Nat.div_one, Nat.mod_eq_of_lt high]
  omega

/-- pci-fake's two images agree exactly when the unconverted checksum has equal bytes. -/
theorem makeRestMsg_pciFake_iff (chipIndex : BitVec 32) :
    PciFake.makeRestMsg .bigEndian chipIndex = PciFake.makeRestMsg .littleEndian chipIndex ↔
      257 ∣ (restCrc (ByteOrder.littleEndian.bytes32 chipIndex)).toNat := by
  rw [PciFake.makeRestMsg_image, PciFake.makeRestMsg_image, Option.some_inj, ← bytes16_same_iff]
  constructor
  · intro same
    let crc := restCrc (ByteOrder.littleEndian.bytes32 chipIndex)
    have swapped : crc.extractLsb' 8 8 = crc.extractLsb' 0 8 := congrArg (Frame.byteAt · 6) same
    change [crc.extractLsb' 8 8, crc.extractLsb' 0 8] = [crc.extractLsb' 0 8, crc.extractLsb' 8 8]
    rw [swapped]
  · intro same
    rw [same]

theorem oneWireImage_iff_hosts (chipIndex : BitVec 32) :
    OneWireImage chipIndex ↔
      Pcidev02.makeRestMsg .bigEndian chipIndex = Pcidev02.makeRestMsg .littleEndian chipIndex ∧
      PciFake.makeRestMsg .bigEndian chipIndex = PciFake.makeRestMsg .littleEndian chipIndex := by
  constructor
  · rintro ⟨image, every⟩
    have big := every .bigEndian
    have little := every .littleEndian
    exact ⟨big.1.trans little.1.symm, big.2.trans little.2.symm⟩
  · rintro ⟨pcidev, fake⟩
    have drivers := makeRestMsg_littleEndian chipIndex
    obtain ⟨image, made⟩ : ∃ image, Pcidev02.makeRestMsg .littleEndian chipIndex = some image :=
      ⟨_, Pcidev02.makeRestMsg_image .littleEndian chipIndex⟩
    refine ⟨image, fun order => ?_⟩
    cases order with
    | littleEndian => exact ⟨made, drivers.symm.trans made⟩
    | bigEndian => exact ⟨pcidev.trans made, fake.trans (drivers.symm.trans made)⟩

/-- The two drivers and the two kinds of host agree exactly about the chip indices that
read the same backwards and whose checksum, `9 * (b0 + b1) + 130`, has equal bytes. -/
theorem oneWireImage_iff (chipIndex : BitVec 32) :
    OneWireImage chipIndex ↔ SameBackwards chipIndex ∧
      ((chipByte chipIndex 0).toNat + (chipByte chipIndex 1).toNat = 214 ∨
        (chipByte chipIndex 0).toNat + (chipByte chipIndex 1).toNat = 471) := by
  rw [oneWireImage_iff_hosts, makeRestMsg_pcidev02_iff, makeRestMsg_pciFake_iff,
    bytes32_littleEndian, restCrc_toNat]
  apply and_congr_right
  rintro ⟨outer, inner⟩
  have first := (chipByte chipIndex 0).isLt
  have second := (chipByte chipIndex 1).isLt
  rw [← outer, ← inner]
  omega

theorem oneWireImage_fails_at_zero : ¬ OneWireImage 0 := by
  rintro ⟨image, every⟩
  have pcidev := (every .bigEndian).1
  have fake := (every .bigEndian).2
  have same : (Pcidev02.makeRestMsg .bigEndian 0).map (Frame.byteAt · 6) =
      (PciFake.makeRestMsg .bigEndian 0).map (Frame.byteAt · 6) := by
    rw [pcidev, fake]
  exact absurd same (by decide +kernel)

end LddLearn.Ssxa
