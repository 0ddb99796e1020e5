import LddLearn.Pcidev01.Runs

/-!
# Device numbers over load and unload

`module_load` reserves `MAX_DEVICE` numbers and its error exit behind
`pci_register_driver` gives one back; `module_unload` gives back all of them. Probes
and removes in between touch none. A run here goes through any number of insertions:
each starts from fresh globals and the kernel as the one before left it.
-/

set_option autoImplicit false

namespace LddLearn.Pcidev01
open LddLearn.Linux LddLearn.Library LddLearn.Library.Run

variable {Dev : Type}

/-- Static storage as the module is inserted once more; `cdev_alloc`'s numbering goes on. -/
def World.inserted (w : World Dev) : World Dev :=
  { World.boot with nextCdev := w.nextCdev, kernel := w.kernel }

/-- Before the first `module_load`. -/
def RunState.out : RunState Dev := ⟨World.boot, ∅, false⟩

inductive ModuleCall (Dev : Type) where
  | load (answers : LoadAnswers)
  | callback (c : Callback Dev)
  deriving DecidableEq, Repr

/-- While the module is out no number it was given is reserved. -/
def NumbersReturned (r : RunState Dev) : Prop :=
  r.loaded = false → r.world.kernel.chrdevs = []

instance : DecidablePred (NumbersReturned : RunState Dev → Prop) :=
  fun r => inferInstanceAs (Decidable (r.loaded = false → r.world.kernel.chrdevs = []))

/-- A load that gets its numbers gets its driver registered. -/
def RegistersDriver (_ : RunState Dev) : ModuleCall Dev → Prop
  | .load answers => answers.allocChrdev = .ok → answers.registerDriver = .ok
  | .callback _ => True

instance (r : RunState Dev) : ∀ c : ModuleCall Dev, Decidable (RegistersDriver r c)
  | .load answers =>
    inferInstanceAs (Decidable (answers.allocChrdev = .ok → answers.registerDriver = .ok))
  | .callback _ => isTrue trivial

/-- Neither the numbers reserved nor the driver's note of them changes. -/
def SameNumbers (before after : World Dev) : Prop :=
  after.devno = before.devno ∧ after.kernel.chrdevs = before.kernel.chrdevs

theorem SameNumbers.trans {first second third : World Dev} (left : SameNumbers first second)
    (right : SameNumbers second third) : SameNumbers first third :=
  ⟨right.1.trans left.1, right.2.trans left.2⟩

variable [DecidableEq Dev] {pci : Dev → PciDev} {answers : ProbeAnswers} {load : LoadAnswers}
  {w after : World Dev} {dev : Dev} {r r' : RunState Dev}

def moduleStep (pci : Dev → PciDev) (r : RunState Dev) : ModuleCall Dev → Option (RunState Dev)
  | .load answers =>
    let (ret, world) := moduleLoad answers r.world.inserted
    some ⟨world, ∅, decide (ret = 0)⟩
  | .callback c => step pci r c

/-- A load finds the module out; the PCI core and the unload call it while it is in. -/
def ModuleCalls (r : RunState Dev) : ModuleCall Dev → Prop
  | .load _ => r.loaded = false
  | .callback c => CoreCalls r c

instance (r : RunState Dev) : ∀ c : ModuleCall Dev, Decidable (ModuleCalls r c)
  | .load _ => inferInstanceAs (Decidable (r.loaded = false))
  | .callback c => inferInstanceAs (Decidable (CoreCalls r c))

/-- The call leaves no number reserved behind a module that is out. -/
def ReturnsNumbers (pci : Dev → PciDev) (r : RunState Dev) (c : ModuleCall Dev) : Prop :=
  ∀ r' ∈ moduleStep pci r c, NumbersReturned r'

/-! ## Probe, remove and the loop of unload -/

theorem requestAndScan_numbers (w : World Dev) (dev : Dev) (cdev : CdevPtr) :
    SameNumbers w (requestAndScan pci answers w dev cdev).2 := by
  unfold requestAndScan
  cases answers.enable with
  | ok => cases answers.regions with
    | ok => exact ⟨rfl, rfl⟩
    | error errno => exact ⟨rfl, rfl⟩
  | error _ => cases answers.regions with
    | ok => exact ⟨rfl, rfl⟩
    | error errno => exact ⟨rfl, rfl⟩

theorem registerCdev_numbers {ret minor : Int}
    (outcome : registerCdev pci answers w dev minor = .ok (ret, after)) : SameNumbers w after := by
  rcases registerCdev_outcome outcome with ⟨_, rfl⟩ | ⟨linked, scanned⟩
  · exact ⟨rfl, rfl⟩
  · have same : _ = after := congrArg Prod.snd scanned
    rw [← same]
    exact requestAndScan_numbers _ dev w.nextCdev

theorem probe_numbers {ret : Int} (outcome : pciProbe pci answers w dev = .ok (ret, after)) :
    SameNumbers w after := by
  unfold pciProbe at outcome
  dsimp only at outcome
  split at outcome
  · obtain ⟨_, rfl⟩ := Prod.mk.inj (Except.ok.inj outcome)
    exact ⟨rfl, rfl⟩
  · have registered := registerCdev_numbers outcome
    exact ⟨registered.1, registered.2⟩

omit [DecidableEq Dev] in
theorem deleteCdev_chrdevs (kernel : Kernel Dev CdevPtr) (found : Option CdevPtr) :
    (deleteCdev kernel found).chrdevs = kernel.chrdevs := by
  cases found with
  | none => rfl
  | some cdev => rfl

theorem remove_numbers (w : World Dev) (dev : Dev) : SameNumbers w (pciRemove w dev) :=
  ⟨rfl, deleteCdev_chrdevs w.kernel _⟩

theorem removes_numbers (devices : List Dev) (w : World Dev) :
    SameNumbers w (devices.foldl pciRemove w) := by
  induction devices generalizing w with
  | nil => exact ⟨rfl, rfl⟩
  | cons dev rest ih => exact (remove_numbers w dev).trans (ih (pciRemove w dev))

omit [DecidableEq Dev] in
theorem deleteLeft_numbers (table : Table Dev) {before left : Kernel Dev CdevPtr}
    (outcome : deleteLeft before table = .ok left) : left.chrdevs = before.chrdevs := by
  induction table generalizing before with
  | nil => exact congrArg Kernel.chrdevs (Except.ok.inj outcome).symm
  | cons pair rest ih =>
    unfold deleteLeft at outcome
    split at outcome
    · exact ih outcome
    · exact absurd outcome (by simp)
    · have later := ih outcome
      exact later

/-- What is left of the numbers after unloading: those outside the driver's range. -/
theorem unload_numbers {boundDevices : List Dev} (outcome : moduleUnload boundDevices w = .ok after) :
    after.kernel.chrdevs =
      w.kernel.chrdevs.filter (· ∉ Kernel.devRange w.devno MAX_DEVICE) := by
  obtain ⟨devno, chrdevs⟩ := removes_numbers boundDevices w
  unfold moduleUnload at outcome
  dsimp only at outcome
  cases loop : deleteLeft (boundDevices.foldl pciRemove w).kernel (boundDevices.foldl pciRemove w).pciCdev with
  | error fault => simp [loop, Except.map] at outcome
  | ok kernel =>
    rw [loop] at outcome
    obtain rfl := Except.ok.inj outcome
    change kernel.chrdevs.filter (· ∉ Kernel.devRange (boundDevices.foldl pciRemove w).devno MAX_DEVICE) = _
    rw [deleteLeft_numbers _ loop, devno, chrdevs]

/-! ## Runs -/

/-- The numbers reserved are the driver's while it is in, and none while it is out. -/
structure NumbersInv (r : RunState Dev) : Prop where
  out : NumbersReturned r
  inside : r.loaded = true →
    r.world.kernel.chrdevs = Kernel.devRange r.world.devno MAX_DEVICE

/-- Giving one number back leaves the second. -/
theorem chrdevs_after_failed_load (major : Nat) :
    (Kernel.devRange ⟨major, 0⟩ MAX_DEVICE).filter (· ∉ Kernel.devRange ⟨major, 0⟩ 1) ≠ [] := by
  have second : (⟨major, 1⟩ : DevT) ∈
      (Kernel.devRange ⟨major, 0⟩ MAX_DEVICE).filter (· ∉ Kernel.devRange ⟨major, 0⟩ 1) := by
    simp [Kernel.devRange, MAX_DEVICE, List.range_succ]
  exact List.ne_nil_of_mem second

theorem load_step (load : LoadAnswers) (r : RunState Dev) :
    moduleStep pci r (.load load) = some ⟨(moduleLoad load r.world.inserted).2, ∅,
      decide ((moduleLoad load r.world.inserted).1 = 0)⟩ := rfl

theorem NumbersInv.load_iff (before : NumbersInv r) (out : r.loaded = false) :
    ReturnsNumbers pci r (.load load) ↔ RegistersDriver r (.load load) := by
  have empty : r.world.inserted.kernel.chrdevs = [] := before.out out
  unfold ReturnsNumbers
  simp only [load_step, Option.mem_def, Option.some.injEq, forall_eq']
  by_cases granted : load.allocChrdev = .ok
  · rw [load_numbered granted]
    by_cases registered : load.registerDriver = .ok
    · rw [if_pos registered]
      refine ⟨fun _ _ => registered, fun _ isOut => ?_⟩
      exact absurd isOut (by simp)
    · rw [if_neg registered]
      constructor
      · intro returned
        have failed : load.registerDriver.code ≠ 0 := by simpa using registered
        have left := returned (by simp [failed])
        change ((r.world.inserted.kernel.chrdevs ++ Kernel.devRange ⟨load.major, 0⟩ MAX_DEVICE).filter
          (· ∉ Kernel.devRange ⟨load.major, 0⟩ 1)) = [] at left
        rw [empty, List.nil_append] at left
        exact absurd left (chrdevs_after_failed_load load.major)
      · intro registers
        exact absurd (registers granted) registered
  · rw [load_refused granted]
    exact ⟨fun _ isGranted => absurd isGranted granted, fun _ _ => empty⟩

theorem NumbersInv.load_kept (before : NumbersInv r) (out : r.loaded = false)
    (registers : RegistersDriver r (.load load))
    (taken : moduleStep pci r (.load load) = some r') : NumbersInv r' := by
  refine ⟨(before.load_iff out).mpr registers r' taken, fun loaded => ?_⟩
  have empty : r.world.inserted.kernel.chrdevs = [] := before.out out
  obtain rfl := Option.some.inj ((load_step load r).symm.trans taken)
  by_cases granted : load.allocChrdev = .ok
  · rw [load_numbered granted, if_pos (registers granted)]
    change r.world.inserted.kernel.chrdevs ++ Kernel.devRange ⟨load.major, 0⟩ MAX_DEVICE = _
    rw [empty]
    rfl
  · have refused : load.allocChrdev.code ≠ 0 := by simpa using granted
    rw [load_refused granted] at loaded
    exact absurd loaded (by simpa using granted)

/-- Probe and remove touch no number, and unload gives all of them back. -/
theorem NumbersInv.callback_kept (c : Callback Dev) (before : NumbersInv r)
    (called : CoreCalls r c) (taken : step pci r c = some r') : NumbersInv r' := by
  have kept : ∀ {world : World Dev} {bound : Finset Dev}, SameNumbers r.world world →
      r.loaded = true → NumbersInv { r with world, bound } := by
    intro world bound same loaded
    refine ⟨fun out => ?_, fun _ => ?_⟩
    · exact absurd (loaded.symm.trans out) (by simp)
    · change world.kernel.chrdevs = Kernel.devRange world.devno MAX_DEVICE
      rw [same.1, same.2]
      exact before.inside loaded
  cases c with
  | probe dev answers =>
    cases outcome : pciProbe pci answers r.world dev with
    | ok result =>
      simp only [step, outcome, Option.some.injEq] at taken
      obtain rfl := taken
      exact kept (probe_numbers outcome) called.1
    | error fault => simp [step, outcome] at taken
  | remove dev =>
    obtain rfl := Option.some.inj taken
    exact kept (remove_numbers r.world dev) called.1
  | unload boundDevices =>
    cases outcome : moduleUnload boundDevices r.world with
    | ok world =>
      simp only [step, outcome, Option.some.injEq] at taken
      obtain rfl := taken
      refine ⟨fun _ => ?_, fun loaded => absurd loaded (by simp)⟩
      rw [unload_numbers outcome, before.inside called.1]
      simp
    | error fault => simp [step, outcome] at taken

/-- In exactly the runs whose loads all get the driver registered once they have their
numbers, no number stays reserved while the module is out. -/
theorem each_returnsNumbers_iff {calls : List (ModuleCall Dev)}
    (called : Each (moduleStep pci) ModuleCalls .out calls) :
    Each (moduleStep pci) (ReturnsNumbers pci) .out calls ↔
      Each (moduleStep pci) RegistersDriver .out calls := by
  have start : NumbersInv (RunState.out : RunState Dev) :=
    ⟨fun _ => rfl, fun loaded => absurd loaded (by simp [RunState.out])⟩
  refine each_iff_each (fun r c before allowed => ?_) ?_ start called
  · cases c with
    | load answers => exact before.load_iff allowed
    | callback c => exact ⟨fun _ => trivial, fun _ r' taken => (before.callback_kept c allowed taken).out⟩
  · intro r c r' before allowed registers taken
    cases c with
    | load answers => exact before.load_kept allowed registers taken
    | callback c => exact before.callback_kept c allowed taken

/-- Two insertions, the first of which never gets its numbers. -/
def twoLoads : List (ModuleCall Nat) :=
  [.load { sampleLoad with allocChrdev := .error 15 }, .load sampleLoad,
    .callback (.probe 0 allGranted), .callback (.unload [0])]

theorem each_returnsNumbers_two_loads :
    Each (moduleStep fun _ => sampleCard) (ReturnsNumbers fun _ => sampleCard) .out twoLoads :=
  (each_returnsNumbers_iff (by decide +kernel)).mpr (by decide +kernel)

/-- A load whose `pci_register_driver` fails leaves seven of its eight numbers reserved. -/
theorem failed_load_keeps_numbers :
    Each (moduleStep fun _ : Nat => sampleCard) ModuleCalls .out
        [.load { sampleLoad with registerDriver := .error 11 }] ∧
      ¬ Each (moduleStep fun _ : Nat => sampleCard) (ReturnsNumbers fun _ => sampleCard) .out
        [.load { sampleLoad with registerDriver := .error 11 }] := by
  constructor
  · decide +kernel
  · rintro ⟨returned, _⟩
    exact absurd (returned _ rfl rfl) (by decide +kernel)

end LddLearn.Pcidev01
