import LddLearn.Pcidev01.Files
import LddLearn.Ssxa.Holding

/-!
# The BAR that is recorded and the BAR that is used

`pci_probe` looks at all six BARs and leaves the start of the last IO BAR in `g_base_port`.
`pci_read` and `pci_write` take the start of BAR 0, of whatever kind it is. The probe accepts
a device without comparing the two, and without asking for an IO BAR at all: the version of
it that is compiled out checks that BAR 0 "is *really* IO region".
-/

set_option autoImplicit false

namespace LddLearn.Pcidev01
open LddLearn.Linux
open LddLearn.Ssxa (IoBar lastBar lastBar_mem lastBar_append)

/-! ## Property and condition -/

/-- The port belongs to an IO BAR of the device that starts at `base`. -/
def InIoBarAt (hw : PciDev) (base : ULong) (port : BitVec 16) : Prop :=
  ∃ bar, IoBar (hw.bars bar) ∧ (hw.bars bar).start = base ∧ base.toNat ≤ port.toNat ∧
    port.toNat < base.toNat + (hw.bars bar).len.toNat

instance (hw : PciDev) (base : ULong) (port : BitVec 16) : Decidable (InIoBarAt hw base port) :=
  inferInstanceAs (Decidable (∃ _, _))

/-- The transfer returns, and every port it accesses is in the IO BAR that the scan recorded. -/
def UsesRecordedBar (hw : PciDev) (scan : ScanResult) (transfer : Except Fault Transfer) : Prop :=
  ∃ done, transfer = .ok done ∧ ∀ access ∈ done.accesses, InIoBarAt hw scan.basePort access.port

/-- The port belongs to an IO BAR that starts where the last one does. -/
def InLastIoBar (hw : PciDev) (port : BitVec 16) : Prop :=
  ∃ last ∈ lastBar IoBar hw, InIoBarAt hw last.start port

/-- READ_DATA, as `pci_read` computes it. -/
def readDataPort (hw : PciDev) : BitVec 16 := ((hw.bars SSA10A_BAR_IO).start + 1).setWidth 16

/-! ## What the scan records -/

theorem scanBar_basePort (hw : PciDev) (scan : ScanResult) (bar : Fin 6) :
    (scanBar hw scan bar).basePort =
      if IoBar (hw.bars bar) then (hw.bars bar).start else scan.basePort := by
  unfold scanBar
  dsimp only
  by_cases io : IoBar (hw.bars bar)
  · rw [if_pos io]
    exact congrArg ScanResult.basePort (if_pos io)
  · rw [if_neg io]
    refine (congrArg ScanResult.basePort (if_neg io)).trans ?_
    split
    · rfl
    · rfl

/-- The start of the last IO BAR, or zero. -/
theorem scanBars_basePort (hw : PciDev) (scan : ScanResult) :
    (scanBars hw scan).basePort = ((lastBar IoBar hw).map (·.start)).getD 0 := by
  unfold scanBars lastBar
  generalize List.finRange 6 = bars
  induction bars using List.reverseRecOn with
  | nil => rfl
  | append_singleton bars bar ih =>
    rw [List.foldl_append, List.foldl_cons, List.foldl_nil, scanBar_basePort, ih, List.map_append,
      List.map_singleton, lastBar_append]
    split
    · rfl
    · rfl

/-- What is recorded can be told from zero: a port lies in no IO BAR when there is none. -/
theorem inIoBarAt_recorded_iff (hw : PciDev) (scan : ScanResult) (port : BitVec 16) :
    InIoBarAt hw (scanBars hw scan).basePort port ↔ InLastIoBar hw port := by
  rw [scanBars_basePort]
  cases last : lastBar IoBar hw with
  | none =>
    have noIo := (Ssxa.lastBar_eq_none IoBar hw).mp last
    constructor
    · rintro ⟨bar, io, _⟩
      exact absurd io (noIo bar)
    · rintro ⟨bar, member, _⟩
      rw [last] at member
      cases member
  | some bar =>
    constructor
    · exact fun inside => ⟨bar, last, inside⟩
    · rintro ⟨other, member, inside⟩
      obtain rfl : bar = other := Option.some.inj (last.symm.trans member)
      exact inside

/-- Where BAR 0 is the last IO BAR and reaches READ_DATA, the two agree. -/
theorem readDataPort_recorded {hw : PciDev}
    (agrees : lastBar IoBar hw = some (hw.bars SSA10A_BAR_IO))
    (low : (hw.bars SSA10A_BAR_IO).start.toNat + 1 < 2 ^ 16)
    (reaches : 1 < (hw.bars SSA10A_BAR_IO).len.toNat) : InLastIoBar hw (readDataPort hw) := by
  have next : (readDataPort hw).toNat = (hw.bars SSA10A_BAR_IO).start.toNat + 1 := by
    have one : (1 : ULong).toNat = 1 := rfl
    rw [readDataPort, BitVec.toNat_setWidth, BitVec.toNat_add, one]
    omega
  refine ⟨hw.bars SSA10A_BAR_IO, agrees, SSA10A_BAR_IO, (lastBar_mem agrees).1, rfl, ?_, ?_⟩
  · omega
  · omega

section Probe
variable {Dev : Type} [DecidableEq Dev] {pci : Dev → PciDev} {answers : ProbeAnswers}
  {w after : World Dev} {d : Dev}

theorem requestAndScan_accepted {cdev : CdevPtr}
    (accepted : requestAndScan pci answers w d cdev = (1, after)) :
    after.scan = scanBars (pci d) w.scan := by
  unfold requestAndScan at accepted
  dsimp only at accepted
  split at accepted
  · exact absurd (Prod.mk.inj accepted).1 (by decide)
  · obtain ⟨_, rfl⟩ := Prod.mk.inj accepted
    rfl

/-- A probe that returns 1 has come to the scan. -/
theorem probe_accepted_scan (accepted : pciProbe pci answers w d = .ok (1, after)) :
    after.scan = scanBars (pci d) w.scan := by
  unfold pciProbe at accepted
  dsimp only at accepted
  split at accepted
  · exact absurd (Prod.mk.inj (Except.ok.inj accepted)).1 (by decide)
  · rcases registerCdev_outcome accepted with ⟨impossible, _⟩ | ⟨linked, scanned⟩
    · exact absurd impossible (by decide)
    · have scan : after.scan = _ := requestAndScan_accepted scanned
      exact scan

/-! ## The ports of a transfer -/

omit [DecidableEq Dev] in
theorem usesRecordedBar_iff {scan : ScanResult} {transfer : Except Fault Transfer} {done : Transfer}
    (returned : transfer = .ok done) :
    UsesRecordedBar (pci d) (scanBars (pci d) scan) transfer ↔
      ∀ access ∈ done.accesses, InLastIoBar (pci d) access.port := by
  have inside (port : BitVec 16) := inIoBarAt_recorded_iff (pci d) scan port
  constructor
  · rintro ⟨other, outcome, all⟩ access member
    obtain rfl := Except.ok.inj (returned.symm.trans outcome)
    exact (inside access.port).mp (all access member)
  · intro all
    exact ⟨done, returned, fun access member => (inside access.port).mpr (all access member)⟩

/-- A device that is accepted is read and written in the IO BAR that its probe recorded, exactly
when READ_DATA of BAR 0, and every byte written as a port number, belong to an IO BAR that
starts where the last one does. -/
theorem uses_recorded_bar_iff (accepted : pciProbe pci answers w d = .ok (1, after))
    (input : Nat → BitVec 8) (length : Nat) (buffer : List (BitVec 8)) :
    (UsesRecordedBar (pci d) after.scan (pciRead pci input length ⟨some d⟩) ∧
        UsesRecordedBar (pci d) after.scan (pciWrite pci buffer ⟨some d⟩)) ↔
      (0 < length → InLastIoBar (pci d) (readDataPort (pci d))) ∧
        ∀ value ∈ buffer, InLastIoBar (pci d) (value.setWidth 16) := by
  obtain ⟨read, readReturned, readPorts⟩ : ∃ done, pciRead pci input length ⟨some d⟩ = .ok done ∧ _ :=
    pciRead_ports rfl (InLastIoBar (pci d)) input length
  obtain ⟨written, writeReturned, writePorts⟩ : ∃ done, pciWrite pci buffer ⟨some d⟩ = .ok done ∧ _ :=
    pciWrite_ports rfl (InLastIoBar (pci d)) buffer
  rw [probe_accepted_scan accepted, usesRecordedBar_iff readReturned, readPorts,
    usesRecordedBar_iff writeReturned, writePorts]
  rfl

end Probe

/-- The ordinary card, read and not written. -/
theorem uses_recorded_bar_iff_sample :
    ∃ after, pciProbe (fun _ => sampleCard) allGranted (moduleLoad sampleLoad World.boot).2
        (0 : Nat) = .ok (1, after) ∧
      ((UsesRecordedBar sampleCard after.scan (pciRead (fun _ => sampleCard) (fun _ => 7) 16 ⟨some 0⟩) ∧
          UsesRecordedBar sampleCard after.scan (pciWrite (fun _ => sampleCard) [] ⟨some 0⟩)) ↔
        (0 < 16 → InLastIoBar sampleCard (readDataPort sampleCard)) ∧
          ∀ value ∈ ([] : List (BitVec 8)), InLastIoBar sampleCard (value.setWidth 16)) := by
  obtain ⟨after, accepted⟩ : ∃ after, pciProbe (fun _ => sampleCard) allGranted
      (moduleLoad sampleLoad World.boot).2 (0 : Nat) = .ok (1, after) := ⟨_, rfl⟩
  exact ⟨after, accepted, uses_recorded_bar_iff accepted (fun _ => 7) 16 []⟩

/-- A card with its memory in front of its ports. -/
def memoryFirstCard : PciDev where
  bars := fun bar =>
    match bar.val with
    | 0 => { flags := IORESOURCE_MEM, start := 0xfebf0000, len := 8192 }
    | 1 => { flags := IORESOURCE_IO, start := 0xc000, len := 256 }
    | _ => { flags := 0, start := 0, len := 0 }
  irq := 11

/-- It is accepted, the scan records 0xc000, and a read takes its bytes from port 1. -/
theorem read_outside_recorded_bar :
    ¬ ∀ (pci : Nat → PciDev) (answers : ProbeAnswers) (w after : World Nat) (d : Nat),
      pciProbe pci answers w d = .ok (1, after) →
      ∀ (input : Nat → BitVec 8) (length : Nat) (buffer : List (BitVec 8)),
        UsesRecordedBar (pci d) after.scan (pciRead pci input length ⟨some d⟩) ∧
        UsesRecordedBar (pci d) after.scan (pciWrite pci buffer ⟨some d⟩) := by
  intro claim
  obtain ⟨done, returned, inside⟩ := (claim (fun _ => memoryFirstCard) allGranted
    (moduleLoad sampleLoad World.boot).2 _ 0 rfl (fun _ => 7) 1 []).1
  obtain rfl := Except.ok.inj (returned.symm.trans
    (show _ = Except.ok ⟨1, [.inb 1], [7]⟩ by decide +kernel))
  exact absurd (inside (.inb 1) List.mem_cons_self) (by decide +kernel)

end LddLearn.Pcidev01
