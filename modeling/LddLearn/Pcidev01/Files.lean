import LddLearn.Pcidev01.Cdevs

/-!
# Open files over removes

`pci_open` keeps the device that its minor's entry holds in `private_data`, and a remove
changes the table but no open file. So a file may outlive its device's entry: what it reads
and writes afterwards are the ports of a device the driver has let go. `pci_write` hands
`outb` its arguments in the wrong order, which makes each byte written a port number.

`pci_release` does nothing. The VFS caps the length of a read or write below `INT_MAX`, so
the loop counters do not wrap.
-/

set_option autoImplicit false

namespace LddLearn.Pcidev01
open LddLearn.Linux LddLearn.Library LddLearn.Library.Run

/-! ## The file operations -/

/-- `inb(port)` and `outb(value, port)`. -/
inductive PortAccess where
  | inb (port : BitVec 16)
  | outb (value : BitVec 8) (port : BitVec 16)
  deriving DecidableEq, Repr

def PortAccess.port : PortAccess → BitVec 16
  | .inb port => port
  | .outb _ port => port

/-- The field of a `struct file` the driver uses. -/
structure File (Dev : Type) where
  privateData : Option Dev
  deriving DecidableEq, Repr

/-- A read or write under way: the bytes counted, what it did to ports, and what it passed
to `put_user`, whose answer is not looked at. -/
structure Transfer where
  count : Nat
  accesses : List PortAccess
  user : List (BitVec 8)
  deriving DecidableEq, Repr

def Transfer.empty : Transfer := ⟨0, [], []⟩

/-- The `while` of `pci_read`, `left` rounds before its end; `input` is what the device
answers. -/
def readLoop (pciIoAddr : ULong) (input : Nat → BitVec 8) : Nat → Transfer → Transfer
  | 0, transfer => transfer
  | left + 1, transfer =>
    readLoop pciIoAddr input left {
      count := transfer.count + 1
      accesses := transfer.accesses ++ [.inb ((pciIoAddr + 1).setWidth 16)]
      user := transfer.user ++ [input transfer.count] }

/-- The `for` of `pci_write`. The source's call is `outb(pci_io_addr+2, value)`. -/
def writeLoop (pciIoAddr : ULong) : List (BitVec 8) → Transfer → Transfer
  | [], transfer => transfer
  | value :: rest, transfer =>
    writeLoop pciIoAddr rest { transfer with
      count := transfer.count + 1
      accesses := transfer.accesses ++ [.outb ((pciIoAddr + 2).setWidth 8) (value.setWidth 16)] }

section Operations
variable {Dev : Type} (pci : Dev → PciDev)

/-- `pci_open`, which always returns 0. -/
def pciOpen (table : Table Dev) (minor : Int) : Int × File Dev :=
  (0, { privateData := pciCdevSearchPciDev table minor })

def pciResourceStart (pdev : Option Dev) (bar : Fin 6) : Except Fault ULong :=
  match pdev with
  | none => .error .nullPointer
  | some dev => .ok ((pci dev).bars bar).start

/-- `pci_read` returns the count of its transfer. -/
def pciRead (input : Nat → BitVec 8) (length : Nat) (file : File Dev) : Except Fault Transfer :=
  (pciResourceStart pci file.privateData SSA10A_BAR_IO).map fun pciIoAddr =>
    readLoop pciIoAddr input length .empty

/-- `pci_write` returns the count of its transfer, the length of the buffer. -/
def pciWrite (buffer : List (BitVec 8)) (file : File Dev) : Except Fault Transfer :=
  (pciResourceStart pci file.privateData SSA10A_BAR_IO).map fun pciIoAddr =>
    writeLoop pciIoAddr buffer .empty

end Operations

/-! ## Runs with open files -/

/-- A `struct file*`. -/
abbrev FilePtr := Nat

/-- The driver, the open files, and the devices whose last probe found a free entry and
that have not been removed since. -/
structure FilesState (Dev : Type) where
  core : RunState Dev
  listed : Finset Dev
  files : FilePtr → Option (File Dev)

def FilesState.start {Dev : Type} (world : World Dev) : FilesState Dev :=
  ⟨RunState.start world, ∅, fun _ => none⟩

inductive FileCall (Dev : Type) where
  | probe (dev : Dev) (answers : ProbeAnswers)
  | remove (dev : Dev)
  | open (file : FilePtr) (minor : Int)
  | read (file : FilePtr) (input : Nat → BitVec 8) (length : Nat)
  | write (file : FilePtr) (buffer : List (BitVec 8))
  | release (file : FilePtr)

section Runs
variable {Dev : Type}

def FilesState.setFile (r : FilesState Dev) (file : FilePtr) (opened : Option (File Dev)) :
    FilesState Dev :=
  { r with files := Function.update r.files file opened }

/-- A transfer changes ports and user memory only. -/
def transferStep (r : FilesState Dev) (file : FilePtr)
    (transfer : File Dev → Except Fault Transfer) : Option (FilesState Dev) :=
  match (r.files file).map transfer with
  | some (.ok _) => some r
  | _ => none

/-- The table has an entry without a device. -/
def World.HasFree (w : World Dev) : Prop := ∃ pair ∈ w.pciCdev, pair.pciDev = none

instance [DecidableEq Dev] (w : World Dev) : Decidable w.HasFree :=
  inferInstanceAs (Decidable (∃ pair ∈ w.pciCdev, pair.pciDev = none))

/-- A cdev is registered under the minor. -/
def World.Registered (w : World Dev) (minor : Int) : Prop :=
  ∃ cdev < w.nextCdev, ∃ registration ∈ w.kernel.cdevs cdev, registration.devno = ⟨w.major, minor⟩

instance (w : World Dev) (minor : Int) : Decidable (w.Registered minor) :=
  inferInstanceAs (Decidable (∃ cdev < w.nextCdev, ∃ registration ∈ w.kernel.cdevs cdev,
    registration.devno = ⟨w.major, minor⟩))

variable [DecidableEq Dev] (pci : Dev → PciDev)

def fileStep (r : FilesState Dev) : FileCall Dev → Option (FilesState Dev)
  | .probe dev answers =>
    (step pci r.core (.probe dev answers)).map fun core =>
      { r with core, listed := if r.core.world.HasFree then insert dev r.listed else r.listed }
  | .remove dev =>
    (step pci r.core (.remove dev)).map fun core => { r with core, listed := r.listed.erase dev }
  | .open file minor => some (r.setFile file (pciOpen r.core.world.pciCdev minor).2)
  | .read file input length => transferStep r file (pciRead pci input length)
  | .write file buffer => transferStep r file (pciWrite pci buffer)
  | .release file => some (r.setFile file none)

/-- Besides the PCI core's contract: a file is opened on a registered minor, and read,
written and released while it is open. -/
def FileCalls (r : FilesState Dev) : FileCall Dev → Prop
  | .probe dev answers => CoreCalls r.core (.probe dev answers)
  | .remove dev => CoreCalls r.core (.remove dev)
  | .open file minor => (r.files file).isNone = true ∧ r.core.world.Registered minor
  | .read file _ _ => (r.files file).isSome = true
  | .write file _ => (r.files file).isSome = true
  | .release file => (r.files file).isSome = true

instance (r : FilesState Dev) : ∀ c : FileCall Dev, Decidable (FileCalls r c)
  | .probe dev answers => inferInstanceAs (Decidable (CoreCalls r.core (.probe dev answers)))
  | .remove dev => inferInstanceAs (Decidable (CoreCalls r.core (.remove dev)))
  | .open file minor =>
    inferInstanceAs (Decidable ((r.files file).isNone = true ∧ r.core.world.Registered minor))
  | .read file _ _ => inferInstanceAs (Decidable ((r.files file).isSome = true))
  | .write file _ => inferInstanceAs (Decidable ((r.files file).isSome = true))
  | .release file => inferInstanceAs (Decidable ((r.files file).isSome = true))

/-! ## Property and condition -/

/-- The port lies in one of the device's IO BARs. -/
def HasPort (hw : PciDev) (port : BitVec 16) : Prop :=
  ∃ bar, (hw.bars bar).flags &&& IORESOURCE_IO ≠ 0 ∧
    (hw.bars bar).start.toNat ≤ port.toNat ∧
    port.toNat < (hw.bars bar).start.toNat + (hw.bars bar).len.toNat

instance (hw : PciDev) (port : BitVec 16) : Decidable (HasPort hw port) :=
  inferInstanceAs (Decidable (∃ bar, (hw.bars bar).flags &&& IORESOURCE_IO ≠ 0 ∧
    (hw.bars bar).start.toNat ≤ port.toNat ∧
    port.toNat < (hw.bars bar).start.toNat + (hw.bars bar).len.toNat))

/-- The transfer has an outcome: its `pci_dev` is a bound device of the table, and every
port it accesses is that device's. -/
def UsesPortsOf (r : FilesState Dev) (file : FilePtr)
    (transfer : File Dev → Except Fault Transfer) : Prop :=
  ∃ opened d done, r.files file = some opened ∧ opened.privateData = some d ∧
    d ∈ r.core.bound ∧ (∃ pair ∈ r.core.world.pciCdev, pair.pciDev = some d) ∧
    transfer opened = .ok done ∧ ∀ access ∈ done.accesses, HasPort (pci d) access.port

def UsesBoundPorts (r : FilesState Dev) : FileCall Dev → Prop
  | .read file input length => UsesPortsOf pci r file (pciRead pci input length)
  | .write file buffer => UsesPortsOf pci r file (pciWrite pci buffer)
  | _ => True

/-- The device a read or write finds in its file has not lost the entry it was opened
under, or has been given one again. A read's port is in an IO BAR of the device, and so is
each byte of a write, taken as a port number. -/
def StillListed (r : FilesState Dev) : FileCall Dev → Prop
  | .read file _ length => ∀ opened ∈ r.files file, ∀ d ∈ opened.privateData, d ∈ r.listed ∧
      (0 < length → HasPort (pci d) ((((pci d).bars SSA10A_BAR_IO).start + 1).setWidth 16))
  | .write file buffer => ∀ opened ∈ r.files file, ∀ d ∈ opened.privateData, d ∈ r.listed ∧
      ∀ value ∈ buffer, HasPort (pci d) (value.setWidth 16)
  | _ => True

instance (r : FilesState Dev) : ∀ c : FileCall Dev, Decidable (StillListed pci r c)
  | .probe _ _ => isTrue trivial
  | .remove _ => isTrue trivial
  | .open _ _ => isTrue trivial
  | .read file _ length => inferInstanceAs (Decidable (∀ opened ∈ r.files file,
      ∀ d ∈ opened.privateData, d ∈ r.listed ∧
        (0 < length → HasPort (pci d) ((((pci d).bars SSA10A_BAR_IO).start + 1).setWidth 16))))
  | .write file buffer => inferInstanceAs (Decidable (∀ opened ∈ r.files file,
      ∀ d ∈ opened.privateData, d ∈ r.listed ∧ ∀ value ∈ buffer, HasPort (pci d) (value.setWidth 16)))
  | .release _ => isTrue trivial

end Runs

/-! ## What a transfer accesses -/

theorem readLoop_accesses (pciIoAddr : ULong) (input : Nat → BitVec 8) (left : Nat)
    (transfer : Transfer) :
    (readLoop pciIoAddr input left transfer).accesses =
      transfer.accesses ++ List.replicate left (.inb ((pciIoAddr + 1).setWidth 16)) := by
  induction left generalizing transfer with
  | zero => exact (List.append_nil _).symm
  | succ left ih =>
    rw [readLoop, ih, List.append_assoc]
    rfl

theorem writeLoop_accesses (pciIoAddr : ULong) (buffer : List (BitVec 8)) (transfer : Transfer) :
    (writeLoop pciIoAddr buffer transfer).accesses = transfer.accesses ++
      buffer.map fun value => .outb ((pciIoAddr + 2).setWidth 8) (value.setWidth 16) := by
  induction buffer generalizing transfer with
  | nil => exact (List.append_nil _).symm
  | cons value rest ih =>
    rw [writeLoop, ih, List.append_assoc]
    rfl

theorem readLoop_count (pciIoAddr : ULong) (input : Nat → BitVec 8) (left : Nat)
    (transfer : Transfer) :
    (readLoop pciIoAddr input left transfer).count = transfer.count + left := by
  induction left generalizing transfer with
  | zero => rfl
  | succ left ih =>
    rw [readLoop, ih]
    exact Nat.add_right_comm transfer.count 1 left

theorem writeLoop_count (pciIoAddr : ULong) (buffer : List (BitVec 8)) (transfer : Transfer) :
    (writeLoop pciIoAddr buffer transfer).count = transfer.count + buffer.length := by
  induction buffer generalizing transfer with
  | nil => rfl
  | cons value rest ih =>
    rw [writeLoop, ih, List.length_cons]
    exact Nat.add_right_comm transfer.count 1 rest.length

section Transfers
variable {Dev : Type} {pci : Dev → PciDev} {opened : File Dev} {d : Dev} {done : Transfer}

/-- A transfer that returns has found a device in its file. -/
theorem transfer_started {transfer : ULong → Transfer}
    (returned : (pciResourceStart pci opened.privateData SSA10A_BAR_IO).map transfer = .ok done) :
    ∃ d, opened.privateData = some d ∧ done = transfer ((pci d).bars SSA10A_BAR_IO).start := by
  cases kept : opened.privateData with
  | none => simp [pciResourceStart, kept, Except.map] at returned
  | some d =>
    rw [kept] at returned
    exact ⟨d, rfl, (Except.ok.inj returned).symm⟩

/-- A read that returns has counted all it was asked for. -/
theorem pciRead_count {input : Nat → BitVec 8} {length : Nat}
    (returned : pciRead pci input length opened = .ok done) : done.count = length := by
  obtain ⟨d, _, rfl⟩ := transfer_started returned
  rw [readLoop_count]
  exact Nat.zero_add length

theorem pciWrite_count {buffer : List (BitVec 8)}
    (returned : pciWrite pci buffer opened = .ok done) : done.count = buffer.length := by
  obtain ⟨d, _, rfl⟩ := transfer_started returned
  rw [writeLoop_count]
  exact Nat.zero_add buffer.length

theorem pciRead_ports (kept : opened.privateData = some d) (owned : BitVec 16 → Prop)
    (input : Nat → BitVec 8) (length : Nat) :
    ∃ done, pciRead pci input length opened = .ok done ∧
      ((∀ access ∈ done.accesses, owned access.port) ↔
        (0 < length → owned ((((pci d).bars SSA10A_BAR_IO).start + 1).setWidth 16))) := by
  refine ⟨_, by rw [pciRead, kept]; rfl, ?_⟩
  rw [readLoop_accesses, Transfer.empty, List.nil_append]
  constructor
  · intro all nonempty
    exact all (.inb _) (List.mem_replicate.mpr ⟨Nat.ne_of_gt nonempty, rfl⟩)
  · intro port access member
    obtain ⟨rounds, rfl⟩ := List.mem_replicate.mp member
    exact port (Nat.pos_of_ne_zero rounds)

theorem pciWrite_ports (kept : opened.privateData = some d) (owned : BitVec 16 → Prop)
    (buffer : List (BitVec 8)) :
    ∃ done, pciWrite pci buffer opened = .ok done ∧
      ((∀ access ∈ done.accesses, owned access.port) ↔
        ∀ value ∈ buffer, owned (value.setWidth 16)) := by
  refine ⟨_, by rw [pciWrite, kept]; rfl, ?_⟩
  rw [writeLoop_accesses, Transfer.empty, List.nil_append, List.forall_mem_map]
  rfl

/-- Where every IO BAR starts behind port 255, no byte written names a port of the device. -/
theorem not_hasPort_value {hw : PciDev}
    (high : ∀ bar, (hw.bars bar).flags &&& IORESOURCE_IO ≠ 0 → 256 ≤ (hw.bars bar).start.toNat)
    (value : BitVec 8) : ¬ HasPort hw (value.setWidth 16) := by
  rintro ⟨bar, io, behind, _⟩
  have low : (value.setWidth 16).toNat = value.toNat :=
    BitVec.toNat_setWidth_of_le (by decide)
  have byte := value.isLt
  have above := high bar io
  omega

end Transfers

/-! ## The device behind a minor -/

section Invariant
variable {Dev : Type}

/-- A registered cdev is in the entry of the device and the minor it is registered for. -/
structure CdevOwners (w : World Dev) : Prop where
  fresh : ∀ cdev, w.nextCdev ≤ cdev → w.kernel.cdevs cdev = []
  single : ∀ cdev, (w.kernel.cdevs cdev).length ≤ 1
  entry : ∀ cdev, ∀ registration ∈ w.kernel.cdevs cdev, ∃ pair ∈ w.pciCdev,
    pair.cdev = some cdev ∧ pair.pciDev = some registration.owner ∧
      registration.devno = ⟨w.major, pair.minor⟩

/-- The table lists the devices of `listed`, whatever else went wrong in their probes. -/
structure ListedInv (w : World Dev) (listed : Finset Dev) : Prop where
  table : ∃ N : Numbering Dev 0 MAX_DEVICE, Represents N w.pciCdev ∧ N.domain = listed
  owners : CdevOwners w

structure FilesInv (r : FilesState Dev) : Prop where
  listed : ListedInv r.core.world r.listed
  bound : r.listed ⊆ r.core.bound
  files : ∀ file opened, r.files file = some opened → opened.privateData ≠ none

variable {w w' : World Dev} {listed : Finset Dev} {d : Dev} {minor : Int} {cdev : CdevPtr}
  {earlier later : Table Dev} {pair : PciCdevPair Dev CdevPtr}

theorem ListedInv.mem_iff (invariant : ListedInv w listed) :
    d ∈ listed ↔ ∃ pair ∈ w.pciCdev, pair.pciDev = some d := by
  obtain ⟨N, rep, rfl⟩ := invariant.table
  exact rep.mem_domain_iff

/-- Under a registered minor `pci_open` finds a device, the one the cdev is for. -/
theorem ListedInv.found (invariant : ListedInv w listed) (registered : w.Registered minor) :
    ∃ d ∈ listed, pciCdevSearchPciDev w.pciCdev minor = some d := by
  obtain ⟨cdev, _, registration, member, devno⟩ := registered
  obtain ⟨pair, inside, _, holder, same⟩ := invariant.owners.entry cdev registration member
  obtain rfl : pair.minor = minor := congrArg DevT.minor (same.symm.trans devno)
  refine ⟨registration.owner, invariant.mem_iff.mpr ⟨pair, inside, holder⟩, ?_⟩
  obtain ⟨N, rep, _⟩ := invariant.table
  exact (rep.searchPciDev pair.minor registration.owner).mpr
    ((rep.holders pair inside registration.owner).mp holder)

/-- An entry taken, its cdev left as it was: no registration is in it. -/
theorem CdevOwners.taken (owners : CdevOwners w) (split : w.pciCdev = earlier ++ pair :: later)
    (empty : pair.pciDev = none) {held : Option CdevPtr} (cdev : CdevPtr)
    (registration : Registration Dev) (member : registration ∈ w.kernel.cdevs cdev) :
    ∃ other ∈ earlier ++ { pair with pciDev := some d, cdev := held } :: later,
      other.cdev = some cdev ∧ other.pciDev = some registration.owner ∧
        registration.devno = ⟨w.major, other.minor⟩ := by
  obtain ⟨other, inside, holds, holder, devno⟩ := owners.entry cdev registration member
  have different : other ≠ pair := by
    intro same
    rw [same, empty] at holder
    cases holder
  refine ⟨other, ?_, holds, holder, devno⟩
  rw [split] at inside
  simp only [List.mem_append, List.mem_cons, different, false_or] at inside ⊢
  exact inside.imp_right Or.inr

/-- The entry taken gets the next cdev, which is registered for it or not at all. -/
theorem CdevOwners.linked (owners : CdevOwners w) (split : w.pciCdev = earlier ++ pair :: later)
    (empty : pair.pciDev = none) (registrations : List (Registration Dev))
    (few : registrations.length ≤ 1)
    (mine : ∀ registration ∈ registrations, registration = ⟨⟨w.major, pair.minor⟩, d⟩)
    (table : w'.pciCdev =
      earlier ++ { pair with pciDev := some d, cdev := some w.nextCdev } :: later)
    (major : w'.major = w.major) (next : w'.nextCdev = w.nextCdev + 1)
    (cdevs : w'.kernel.cdevs = Function.update w.kernel.cdevs w.nextCdev registrations) :
    CdevOwners w' where
  fresh := by
    intro cdev behind
    rw [next] at behind
    rw [cdevs, Function.update_of_ne (Nat.ne_of_gt behind)]
    exact owners.fresh cdev (Nat.le_of_succ_le behind)
  single := by
    intro cdev
    rw [cdevs]
    by_cases new : cdev = w.nextCdev
    · rw [new, Function.update_self]
      exact few
    · rw [Function.update_of_ne new]
      exact owners.single cdev
  entry := by
    intro cdev registration member
    rw [cdevs] at member
    rw [table, major]
    by_cases new : cdev = w.nextCdev
    · rw [new, Function.update_self] at member
      refine ⟨{ pair with pciDev := some d, cdev := some w.nextCdev }, by simp, ?_⟩
      rw [mine registration member, new]
      exact ⟨rfl, rfl, rfl⟩
    · rw [Function.update_of_ne new] at member
      exact owners.taken split empty cdev registration member

variable [DecidableEq Dev] {pci : Dev → PciDev} {answers : ProbeAnswers}

/-! ### Probe -/

theorem ListedInv.table_taken (invariant : ListedInv w listed) (absent : d ∉ listed)
    (takes : Takes w d earlier pair later) :
    0 ≤ pair.minor ∧ ∃ N : Numbering Dev 0 MAX_DEVICE,
      Represents N (earlier ++ { pair with pciDev := some d } :: later) ∧
        N.domain = insert d listed := by
  obtain ⟨N, rep, rfl⟩ := invariant.table
  obtain ⟨free, taken⟩ := takes.represents rep absent
  exact ⟨free.1.1, N.insert d pair.minor free, taken, rfl⟩

/-- Whatever the kernel answers, a device that finds a free entry is listed from then on. -/
theorem ListedInv.probe_takes (pci : Dev → PciDev) (answers : ProbeAnswers)
    (invariant : ListedInv w listed) (absent : d ∉ listed)
    (takes : Takes w d earlier pair later) :
    ∃ ret after, pciProbe pci answers w d = .ok (ret, after) ∧ 0 ≤ ret ∧
      ListedInv after (insert d listed) := by
  obtain ⟨nonneg, N, rep, domain⟩ := invariant.table_taken absent takes
  have owners := invariant.owners
  by_cases granted : answers.cdevAdd = .ok
  · have linked := setCdev_entry rep.layout w.nextCdev
    have outcome : pciProbe pci answers w d = _ := probe_registered nonneg takes.added linked granted
    have unused := owners.fresh w.nextCdev (Nat.le_refl _)
    obtain ⟨cdevs, _⟩ := registered_cdevs unused answers d pair.minor
    have table : ∃ N : Numbering Dev 0 MAX_DEVICE,
        Represents N (earlier ++ { pair with pciDev := some d, cdev := some w.nextCdev } :: later) ∧
          N.domain = insert d listed := ⟨N, rep.setCdev w.nextCdev, domain⟩
    by_cases regions : answers.regions = .ok
    · refine ⟨1, _, outcome.trans (if_pos regions), by decide, table, ?_⟩
      exact owners.linked takes.table takes.empty [⟨⟨w.major, pair.minor⟩, d⟩] (Nat.le_refl 1)
        (fun _ member => List.mem_singleton.mp member) rfl rfl rfl cdevs
    · refine ⟨0, _, outcome.trans (if_neg regions), le_refl 0, table, ?_⟩
      refine owners.linked takes.table takes.empty [] (Nat.zero_le 1)
        (fun _ member => absurd member List.not_mem_nil) rfl rfl rfl ?_
      change Function.update (w.registered answers d pair.minor).cdevs w.nextCdev _ = _
      rw [cdevs, Function.update_self, Function.update_idem]
      rfl
  · refine ⟨0, _, probe_unregistered nonneg takes.added granted, le_refl 0, ⟨N, rep, domain⟩, ?_⟩
    refine ⟨fun cdev next => owners.fresh cdev (Nat.le_of_succ_le next), owners.single, ?_⟩
    intro cdev registration member
    exact owners.taken takes.table takes.empty cdev registration member

omit [DecidableEq Dev] in
theorem not_free_iff_full (w : World Dev) : ¬ w.HasFree ↔ ∀ pair ∈ w.pciCdev, pair.pciDev ≠ none := by
  unfold World.HasFree
  push Not
  rfl

theorem ListedInv.probe (pci : Dev → PciDev) (answers : ProbeAnswers)
    (invariant : ListedInv w listed) (absent : d ∉ listed) :
    ∃ ret after, pciProbe pci answers w d = .ok (ret, after) ∧ 0 ≤ ret ∧
      ListedInv after (if w.HasFree then insert d listed else listed) := by
  rcases full_or_takes w d with ⟨full, added⟩ | ⟨earlier, pair, later, takes⟩
  · rw [if_neg ((not_free_iff_full w).mpr full)]
    exact ⟨0, w, probe_full added, le_refl 0, invariant⟩
  · rw [if_pos ⟨pair, takes.member, takes.empty⟩]
    exact invariant.probe_takes pci answers absent takes

/-! ### Remove -/

/-- What a remove leaves registered was registered, and not in the device's entry. -/
theorem CdevOwners.remove_cdevs (owners : CdevOwners w) (d : Dev) (cdev : CdevPtr) :
    (pciRemove w d).kernel.cdevs cdev <:+ w.kernel.cdevs cdev ∧
      (pciCdevSearchCdev w.pciCdev (pciCdevSearchMinor w.pciCdev d) = some cdev →
        (pciRemove w d).kernel.cdevs cdev = []) := by
  rw [remove_kernel rfl]
  cases found : pciCdevSearchCdev w.pciCdev (pciCdevSearchMinor w.pciCdev d) with
  | none => exact ⟨List.suffix_refl _, fun impossible => absurd impossible (by simp)⟩
  | some deleted =>
    change Function.update w.kernel.cdevs deleted (w.kernel.cdevs deleted).tail cdev <:+ _ ∧
      (_ → Function.update w.kernel.cdevs deleted (w.kernel.cdevs deleted).tail cdev = [])
    by_cases here : cdev = deleted
    · subst here
      rw [Function.update_self]
      refine ⟨List.tail_suffix _, fun _ => ?_⟩
      have single := owners.single cdev
      apply List.eq_nil_of_length_eq_zero
      rw [List.length_tail]
      omega
    · rw [Function.update_of_ne here]
      exact ⟨List.suffix_refl _, fun same => absurd (Option.some.inj same).symm here⟩

theorem ListedInv.remove (invariant : ListedInv w listed) (d : Dev) :
    ListedInv (pciRemove w d) (listed.erase d) := by
  obtain ⟨N, rep, domain⟩ := invariant.table
  have owners := invariant.owners
  refine ⟨⟨N.erase d, rep.del d, congrArg (Finset.erase · d) domain⟩, ⟨?_, ?_, ?_⟩⟩
  · intro cdev next
    have suffix := (owners.remove_cdevs d cdev).1
    rw [owners.fresh cdev next] at suffix
    exact List.suffix_nil.mp suffix
  · intro cdev
    exact (owners.remove_cdevs d cdev).1.length_le.trans (owners.single cdev)
  · intro cdev registration member
    obtain ⟨suffix, gone⟩ := owners.remove_cdevs d cdev
    obtain ⟨pair, inside, held, holder, devno⟩ :=
      owners.entry cdev registration (suffix.subset member)
    have other : pair.pciDev ≠ some d := by
      intro mine
      rw [gone ((rep.searchCdev_of_holder inside mine).trans held)] at member
      exact absurd member List.not_mem_nil
    exact ⟨pair, List.mem_map.mpr ⟨pair, inside, if_neg other⟩, held, holder, devno⟩

end Invariant

/-! ## Every run -/

section Statements
variable {Dev : Type} [DecidableEq Dev] {pci : Dev → PciDev} {r r' : FilesState Dev} {file : FilePtr}

omit [DecidableEq Dev] in
theorem FilesInv.start {load : LoadAnswers} {world : World Dev}
    (loaded : moduleLoad load World.boot = (0, world)) : FilesInv (FilesState.start world) := by
  obtain ⟨table, _, cdevs, _⟩ := load_success loaded
  have none (cdev : CdevPtr) : world.kernel.cdevs cdev = [] := congrFun cdevs cdev
  refine ⟨⟨⟨Numbering.empty 0 MAX_DEVICE, ?_, rfl⟩, ?_, ?_, ?_⟩, Finset.empty_subset ∅, ?_⟩
  · exact table ▸ represents_init 0 MAX_DEVICE
  · exact fun cdev _ => none cdev
  · intro cdev
    exact (congrArg List.length (none cdev)).trans_le (Nat.zero_le 1)
  · intro cdev registration member
    change registration ∈ world.kernel.cdevs cdev at member
    rw [none] at member
    exact absurd member List.not_mem_nil
  · intro file opened impossible
    cases impossible

omit [DecidableEq Dev] in
/-- A file changes hands only by open and release. -/
theorem FilesInv.setFile (before : FilesInv r) (file : FilePtr) (opened : Option (File Dev))
    (kept : ∀ f, opened = some f → f.privateData ≠ none) : FilesInv (r.setFile file opened) := by
  refine ⟨before.listed, before.bound, fun other f isOpen => ?_⟩
  change Function.update r.files file opened other = some f at isOpen
  by_cases here : other = file
  · rw [here, Function.update_self] at isOpen
    exact kept f isOpen
  · rw [Function.update_of_ne here] at isOpen
    exact before.files other f isOpen

omit [DecidableEq Dev] in
theorem transferStep_same {transfer : File Dev → Except Fault Transfer}
    (taken : transferStep r file transfer = some r') : r' = r := by
  unfold transferStep at taken
  split at taken
  · exact (Option.some.inj taken).symm
  · cases taken

theorem FilesInv.kept (c : FileCall Dev) (before : FilesInv r) (called : FileCalls r c)
    (taken : fileStep pci r c = some r') : FilesInv r' := by
  cases c with
  | probe d answers =>
    have absent : d ∉ r.listed := fun member => called.2 (before.bound member)
    obtain ⟨ret, after, outcome, nonneg, listed⟩ := before.listed.probe pci answers absent
    have probed := step_probe (r := r.core) outcome
    rw [if_pos nonneg] at probed
    simp only [fileStep, probed, Option.map_some, Option.some.injEq] at taken
    subst taken
    refine ⟨listed, ?_, before.files⟩
    dsimp only
    split
    · exact Finset.insert_subset_insert d before.bound
    · exact before.bound.trans (Finset.subset_insert d r.core.bound)
  | remove d =>
    obtain rfl := Option.some.inj taken
    exact ⟨before.listed.remove d, Finset.erase_subset_erase d before.bound, before.files⟩
  | «open» file minor =>
    obtain rfl := Option.some.inj taken
    obtain ⟨d, _, found⟩ := before.listed.found called.2
    refine before.setFile file _ fun f isOpened => ?_
    obtain rfl := Option.some.inj isOpened
    exact fun missing => Option.some_ne_none d (found.symm.trans missing)
  | read file input length => exact transferStep_same taken ▸ before
  | write file buffer => exact transferStep_same taken ▸ before
  | release file =>
    obtain rfl := Option.some.inj taken
    exact before.setFile file none fun f impossible => absurd impossible (by simp)

omit [DecidableEq Dev] in
/-- A transfer on an open file is sound exactly when its device is still listed and every
port it accesses is that device's. -/
theorem FilesInv.usesPortsOf_iff (before : FilesInv r) (isOpen : (r.files file).isSome = true)
    {transfer : File Dev → Except Fault Transfer} {owned : Dev → Prop}
    (ports : ∀ opened d, opened.privateData = some d → ∃ done, transfer opened = .ok done ∧
      ((∀ access ∈ done.accesses, HasPort (pci d) access.port) ↔ owned d)) :
    UsesPortsOf pci r file transfer ↔
      ∀ opened ∈ r.files file, ∀ d ∈ opened.privateData, d ∈ r.listed ∧ owned d := by
  obtain ⟨opened, found⟩ := Option.isSome_iff_exists.mp isOpen
  obtain ⟨d, kept⟩ := Option.ne_none_iff_exists'.mp (before.files file opened found)
  obtain ⟨done, outcome, accesses⟩ := ports opened d kept
  constructor
  · rintro ⟨opened', d', done', found', kept', _, entry, outcome', all⟩ other isOther e isKept
    obtain rfl : opened' = other := Option.some.inj (found'.symm.trans isOther)
    obtain rfl : d' = e := Option.some.inj (kept'.symm.trans isKept)
    obtain rfl : opened = opened' := Option.some.inj (found.symm.trans found')
    obtain rfl : d = d' := Option.some.inj (kept.symm.trans kept')
    obtain rfl : done = done' := Except.ok.inj (outcome.symm.trans outcome')
    exact ⟨before.listed.mem_iff.mpr entry, accesses.mp all⟩
  · intro still
    obtain ⟨member, mine⟩ := still opened found d kept
    exact ⟨opened, d, done, found, kept, before.bound member, before.listed.mem_iff.mp member,
      outcome, accesses.mpr mine⟩

theorem usesBoundPorts_iff (c : FileCall Dev) (before : FilesInv r) (called : FileCalls r c) :
    UsesBoundPorts pci r c ↔ StillListed pci r c := by
  cases c with
  | read file input length =>
    exact before.usesPortsOf_iff called fun opened d kept => pciRead_ports kept (HasPort (pci d)) input length
  | write file buffer =>
    exact before.usesPortsOf_iff called fun opened d kept => pciWrite_ports kept (HasPort (pci d)) buffer
  | probe d answers => exact Iff.rfl
  | remove d => exact Iff.rfl
  | «open» file minor => exact Iff.rfl
  | release file => exact Iff.rfl

/-- Over runs of probes, removes and file operations in any order: every read and write has
a bound device of the table and accesses that device's ports only, exactly when each of them
comes while its file's device is still listed, and reads and writes no foreign port. -/
theorem uses_bound_ports_iff_still_listed {load : LoadAnswers} {world : World Dev}
    {calls : List (FileCall Dev)} (loaded : moduleLoad load World.boot = (0, world))
    (called : Each (fileStep pci) FileCalls (FilesState.start world) calls) :
    Each (fileStep pci) (UsesBoundPorts pci) (FilesState.start world) calls ↔
      Each (fileStep pci) (StillListed pci) (FilesState.start world) calls := by
  have start : FilesInv (FilesState.start world) := .start loaded
  refine each_iff_each (fun r c before allowed => ?_) ?_ start called
  · exact usesBoundPorts_iff c before allowed
  · intro r c r' before allowed _ taken
    exact before.kept c allowed taken

/-- Two cards, of which the first goes while a file of the second is open. -/
def otherRemoved : List (FileCall Nat) :=
  [.probe 0 allGranted, .probe 1 allGranted, .open 3 1, .remove 0, .read 3 (fun _ => 0) 16,
    .release 3]

theorem uses_bound_ports_iff_other_removed :
    Each (fileStep fun _ => sampleCard) (UsesBoundPorts fun _ => sampleCard)
        (FilesState.start (moduleLoad sampleLoad World.boot).2) otherRemoved ↔
      Each (fileStep fun _ => sampleCard) (StillListed fun _ => sampleCard)
        (FilesState.start (moduleLoad sampleLoad World.boot).2) otherRemoved :=
  uses_bound_ports_iff_still_listed (show moduleLoad sampleLoad World.boot = (0, _) from rfl)
    (by decide +kernel)

def removedWhileOpen : List (FileCall Nat) := [.probe 0 allGranted, .open 3 0, .remove 0]

/-- A card removed while its file is open is read all the same. -/
theorem read_after_remove :
    ¬ ∀ (world : World Nat) (calls : List (FileCall Nat)),
      moduleLoad sampleLoad World.boot = (0, world) →
      Each (fileStep fun _ => sampleCard) FileCalls (FilesState.start world) calls →
      Each (fileStep fun _ => sampleCard) (UsesBoundPorts fun _ => sampleCard)
        (FilesState.start world) calls := by
  intro claim
  obtain ⟨_, later⟩ := (each_append _ removedWhileOpen [.read 3 (fun _ => 0) 1]).mp
    (claim _ (removedWhileOpen ++ [.read 3 (fun _ => 0) 1]) rfl (by decide +kernel))
  obtain ⟨r, reached, unbound⟩ := Option.map_eq_some_iff.mp
    (show (run (fileStep fun _ => sampleCard)
        (FilesState.start (moduleLoad sampleLoad World.boot).2) removedWhileOpen).map
        (fun r => (decide (0 ∈ r.core.bound), (r.files 3).map (·.privateData))) =
          some (false, some (some 0)) by
      decide +kernel)
  obtain ⟨opened, d, _, found, kept, bound, _⟩ := (later r reached).1
  simp only [Prod.mk.injEq, decide_eq_false_iff_not, found, Option.map_some, kept,
    Option.some.injEq] at unbound
  exact unbound.1 (unbound.2 ▸ bound)

end Statements

end LddLearn.Pcidev01
