import LddLearn.Ssxa.Context

/-!
# Frames of the SSX10A protocol

A `struct ssxa_protocol_t` as its packed bytes: processor id at 0, command at 4,
length at 5, data from 6 on. `make_encrykey_msg` is pci-fake's; its `put_crc` stores
the checksum in the host's byte order.
-/

set_option autoImplicit false

namespace LddLearn.Ssxa

def SSX10A_PROTO_DATA_LEN : Nat := 250

abbrev Frame : Type := Fin protocolSize → BitVec 8

inductive ByteOrder where
  | littleEndian
  | bigEndian
  deriving DecidableEq, Repr

/-- The bytes of a `u16` in the host's memory. -/
def ByteOrder.bytes16 (order : ByteOrder) (value : BitVec 16) : List (BitVec 8) :=
  let ascending := [value.extractLsb' 0 8, value.extractLsb' 8 8]
  match order with
  | .littleEndian => ascending
  | .bigEndian => ascending.reverse

/-- The bytes of a `u32` in the host's memory. -/
def ByteOrder.bytes32 (order : ByteOrder) (value : BitVec 32) : List (BitVec 8) :=
  let ascending := [value.extractLsb' 0 8, value.extractLsb' 8 8, value.extractLsb' 16 8,
    value.extractLsb' 24 8]
  match order with
  | .littleEndian => ascending
  | .bigEndian => ascending.reverse

def cpuToLe32 (order : ByteOrder) (value : BitVec 32) : BitVec 32 :=
  match order with
  | .littleEndian => value
  | .bigEndian => value.extractLsb' 0 8 ++ value.extractLsb' 8 8 ++ value.extractLsb' 16 8 ++
      value.extractLsb' 24 8

def cpuToLe16 (order : ByteOrder) (value : BitVec 16) : BitVec 16 :=
  match order with
  | .littleEndian => value
  | .bigEndian => value.extractLsb' 0 8 ++ value.extractLsb' 8 8

/-- The `u16` the host reads from two bytes of its memory. -/
def ByteOrder.value16 (order : ByteOrder) (first second : BitVec 8) : BitVec 16 :=
  match order with
  | .littleEndian => second ++ first
  | .bigEndian => first ++ second

/-- Bytes stored one after the other from an offset on. -/
def Frame.store (msg : Frame) (offset : Nat) (bytes : List (BitVec 8)) : Frame := fun index =>
  if offset ≤ index.val then (bytes[index.val - offset]?).getD (msg index) else msg index

def Frame.byteAt (msg : Frame) (offset : Nat) : BitVec 8 :=
  if inside : offset < protocolSize then msg ⟨offset, inside⟩ else 0

def Frame.datalen (msg : Frame) : Nat := (msg.byteAt 5).toNat

def Frame.firstBytes (msg : Frame) (len : Nat) : List (BitVec 8) := (List.ofFn msg).take len

/-- The running sums `Q` and `S` of 16 bits each. -/
def ssxaChecksum (data : List (BitVec 8)) : BitVec 16 :=
  let sums := data.foldl (fun (q, s) byte =>
    let next := q + byte.setWidth 16
    (next, s + next)) ((0, 0) : BitVec 16 × BitVec 16)
  sums.2

end LddLearn.Ssxa

namespace LddLearn.PciFake
open LddLearn.Ssxa

/-- `none` is the `BUG_ON`. -/
def putCrc (order : ByteOrder) (msg : Frame) : Option Frame :=
  let datalen := (msg ⟨5, by decide⟩).toNat
  if datalen > SSX10A_PROTO_DATA_LEN - 2 then none
  else
    let crc := ssxaChecksum ((List.ofFn msg).take (6 + datalen))
    some (msg.store (6 + datalen) (order.bytes16 crc))

def makeEncrykeyMsg (order : ByteOrder) (chipIndex : BitVec 32) : Option Frame :=
  let zeroed : Frame := fun _ => 0
  let addressed := zeroed.store 0 (order.bytes32 (cpuToLe32 order chipIndex))
  -- 'F', and the payload's length
  let headed := (addressed.store 4 [0x46]).store 5 [16]
  putCrc order (headed.store 6 (List.replicate 16 0x31))

theorem makeEncrykeyMsg_made (order : ByteOrder) (chipIndex : BitVec 32) :
    ∃ msg, makeEncrykeyMsg order chipIndex = some msg := by
  unfold makeEncrykeyMsg putCrc
  refine ⟨_, if_neg ?_⟩
  simp [Frame.store, SSX10A_PROTO_DATA_LEN]

end LddLearn.PciFake
