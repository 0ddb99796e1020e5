import LddLearn.Pcidev01.Files

/-!
# The bus trace of a write

The card's IO region holds byte registers, among them READ_DATA at offset 1 and WRITE_DATA
at offset 2. A write should put its buffer on WRITE_DATA, byte by byte. `outb` takes the
value first and the port second; `pci_write` calls it the other way round, so that each
access carries the low byte of the register's address to the port the user's byte names.
-/

set_option autoImplicit false

namespace LddLearn.Pcidev01
open LddLearn.Linux

/-- Where WRITE_DATA is on the I/O bus. -/
def writeDataPort (hw : PciDev) : BitVec 16 := ((hw.bars SSA10A_BAR_IO).start + 2).setWidth 16

/-- The transfer put the bytes of the buffer on WRITE_DATA, in order, touched nothing else and
counted them all. -/
def PutsOnDevice (hw : PciDev) (buffer : List (BitVec 8)) (done : Transfer) : Prop :=
  done.accesses = buffer.map (fun value => .outb value (writeDataPort hw)) ∧
    done.count = buffer.length

instance (hw : PciDev) (buffer : List (BitVec 8)) (done : Transfer) :
    Decidable (PutsOnDevice hw buffer done) :=
  inferInstanceAs (Decidable (_ ∧ _))

/-- The byte is the number of the WRITE_DATA port. -/
def NamesWriteData (hw : PciDev) (value : BitVec 8) : Prop :=
  value.toNat = ((hw.bars SSA10A_BAR_IO).start.toNat + 2) % 2 ^ 16

theorem toNat_writeDataPort (hw : PciDev) :
    (writeDataPort hw).toNat = ((hw.bars SSA10A_BAR_IO).start.toNat + 2) % 2 ^ 16 := by
  rw [writeDataPort, BitVec.toNat_setWidth, BitVec.toNat_add]
  exact Nat.mod_mod_of_dvd _ (by decide)

/-- The two operands of an access may change places when they agree as numbers. -/
theorem swapped_eq_iff (address : ULong) (value : BitVec 8) :
    PortAccess.outb (address.setWidth 8) (value.setWidth 16) =
        .outb value (address.setWidth 16) ↔
      value.toNat = (address.setWidth 16).toNat := by
  have widened : (value.setWidth 16).toNat = value.toNat :=
    BitVec.toNat_setWidth_of_le (by decide)
  constructor
  · intro same
    obtain ⟨_, port⟩ := PortAccess.outb.inj same
    exact widened.symm.trans (congrArg BitVec.toNat port)
  · intro same
    have low : address.setWidth 8 = value := by
      apply BitVec.eq_of_toNat_eq
      have byte := value.isLt
      rw [BitVec.toNat_setWidth] at same ⊢
      omega
    have port : value.setWidth 16 = address.setWidth 16 :=
      BitVec.eq_of_toNat_eq (widened.trans same)
    rw [low, port]

section Trace
variable {Dev : Type} (pci : Dev → PciDev) (d : Dev) (buffer : List (BitVec 8))

/-- A write on an open file always returns, with one access for each byte. -/
theorem pciWrite_trace :
    ∃ done, pciWrite pci buffer ⟨some d⟩ = .ok done ∧ done.count = buffer.length ∧
      done.accesses = buffer.map fun value =>
        .outb ((((pci d).bars SSA10A_BAR_IO).start + 2).setWidth 8) (value.setWidth 16) := by
  have returned : pciWrite pci buffer ⟨some d⟩ =
      .ok (writeLoop ((pci d).bars SSA10A_BAR_IO).start buffer .empty) := rfl
  refine ⟨_, returned, pciWrite_count returned, ?_⟩
  rw [writeLoop_accesses]
  exact List.nil_append _

/-- Every port a write touches is a byte of the user's. -/
theorem pciWrite_ports_are_bytes {done : Transfer}
    (returned : pciWrite pci buffer ⟨some d⟩ = .ok done) :
    done.accesses.map (·.port) = buffer.map (·.setWidth 16) := by
  obtain ⟨traced, outcome, _, accesses⟩ := pciWrite_trace pci d buffer
  obtain rfl := Except.ok.inj (returned.symm.trans outcome)
  rw [accesses, List.map_map]
  rfl

/-- A write reaches WRITE_DATA with its buffer exactly when every byte of the buffer is the
number of that port, so that value and port may change places. -/
theorem puts_on_device_iff_names_writeData :
    (∃ done, pciWrite pci buffer ⟨some d⟩ = .ok done ∧ PutsOnDevice (pci d) buffer done) ↔
      ∀ value ∈ buffer, NamesWriteData (pci d) value := by
  obtain ⟨done, returned, counted, accesses⟩ := pciWrite_trace pci d buffer
  have bytewise : done.accesses = buffer.map (fun value => .outb value (writeDataPort (pci d))) ↔
      ∀ value ∈ buffer, NamesWriteData (pci d) value := by
    rw [accesses, List.map_inj_left]
    refine forall₂_congr fun value _ => ?_
    rw [NamesWriteData, ← toNat_writeDataPort]
    exact swapped_eq_iff _ value
  constructor
  · rintro ⟨other, outcome, trace, _⟩
    obtain rfl := Except.ok.inj (returned.symm.trans outcome)
    exact bytewise.mp trace
  · intro names
    exact ⟨done, returned, bytewise.mpr names, counted⟩

end Trace

/-- On a card with its registers at 0xc000, writing one `A` sends 2 to port 0x41. -/
theorem write_goes_astray :
    ¬ ∀ (pci : Nat → PciDev) (d : Nat) (buffer : List (BitVec 8)),
      ((pci d).bars SSA10A_BAR_IO).flags &&& IORESOURCE_IO ≠ 0 →
      ∃ done, pciWrite pci buffer ⟨some d⟩ = .ok done ∧ PutsOnDevice (pci d) buffer done := by
  intro claim
  obtain ⟨done, returned, trace, _⟩ := claim (fun _ => sampleCard) 0 [0x41] (by decide +kernel)
  obtain rfl := Except.ok.inj (returned.symm.trans
    (show _ = Except.ok ⟨1, [.outb 2 0x41], []⟩ by decide +kernel))
  exact absurd trace (by decide +kernel)

end LddLearn.Pcidev01
