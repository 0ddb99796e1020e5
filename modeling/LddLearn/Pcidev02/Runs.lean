import LddLearn.Library.Run
import LddLearn.Pcidev02.Effects
import Mathlib.Data.Finset.Card

/-!
# Runs of attach and detach

A run is a list of callbacks, each attach with the kernel's answers to it. The
run state adds to the world what the callbacks' callers know: the devices whose
last attach returned 1, those the PCI core counts as bound (last probe returned
a value ≥ 0), and what `ioremap` returned during each device's last attach. A
callback that faults ends the run.
-/

set_option autoImplicit false

namespace LddLearn.Pcidev02
open LddLearn.Linux LddLearn.Ssxa LddLearn.Library.Run

structure RunState (Dev : Type) where
  world : World Dev
  attached : Finset Dev
  bound : Finset Dev
  mapped : Dev → Option (Mapping Dev)

inductive Callback (Dev : Type) where
  | attach (dev : Dev) (answers : AttachAnswers)
  | detach (dev : Dev)
  deriving DecidableEq, Repr

section Step
variable {Dev : Type} [DecidableEq Dev]

/-- The books after an attach that returned `ret` and left `world`. -/
def RunState.afterAttach (r : RunState Dev) (dev : Dev) (ret : Int) (world : World Dev) :
    RunState Dev where
  world := world
  attached := if ret = 1 then insert dev r.attached else r.attached.erase dev
  bound := if 0 ≤ ret then insert dev r.bound else r.bound.erase dev
  mapped := Function.update r.mapped dev (Kernel.freshMapping r.world.kernel world.kernel)

/-- A device that was not attached leaves the others as they are when it is turned back. -/
theorem RunState.attached_turned_back {r : RunState Dev} {dev : Dev} (absent : dev ∉ r.attached)
    (world : World Dev) : (r.afterAttach dev 0 world).attached = r.attached :=
  Finset.erase_eq_of_notMem absent

def RunState.afterDetach (r : RunState Dev) (dev : Dev) (world : World Dev) : RunState Dev where
  world := world
  attached := r.attached.erase dev
  bound := r.bound.erase dev
  mapped := r.mapped

def step (pci : Dev → PciDev) (r : RunState Dev) : Callback Dev → Option (RunState Dev)
  | .attach dev answers =>
    match pciDriverAttach pci answers r.world dev with
    | .ok (ret, world) => some (r.afterAttach dev ret world)
    | .error _ => none
  | .detach dev =>
    match pciDriverDetach pci r.world dev with
    | .ok world => some (r.afterDetach dev world)
    | .error _ => none

/-- Detach is called only for a device whose last attach returned 1. -/
def DetachAttached (r : RunState Dev) : Callback Dev → Prop
  | .attach _ _ => True
  | .detach dev => dev ∈ r.attached

instance (r : RunState Dev) : ∀ c : Callback Dev, Decidable (DetachAttached r c)
  | .attach _ _ => isTrue trivial
  | .detach dev => inferInstanceAs (Decidable (dev ∈ r.attached))

/-- The PCI core probes a device it has not bound, and removes one it has. -/
def CoreCalls (r : RunState Dev) : Callback Dev → Prop
  | .attach d _ => d ∉ r.bound
  | .detach d => d ∈ r.bound

instance (r : RunState Dev) : ∀ c : Callback Dev, Decidable (CoreCalls r c)
  | .attach d _ => inferInstanceAs (Decidable (d ∉ r.bound))
  | .detach d => inferInstanceAs (Decidable (d ∈ r.bound))

variable {pci : Dev → PciDev} {answers : AttachAnswers} {r r' : RunState Dev} {d : Dev}

theorem step_attach {ret : Int} {after : World Dev}
    (outcome : pciDriverAttach pci answers r.world d = .ok (ret, after)) :
    step pci r (.attach d answers) = some (r.afterAttach d ret after) := by
  simp only [step, outcome]

theorem step_detach {after : World Dev} (outcome : pciDriverDetach pci r.world d = .ok after) :
    step pci r (.detach d) = some (r.afterDetach d after) := by
  simp only [step, outcome]

theorem attach_of_step (taken : step pci r (.attach d answers) = some r') :
    ∃ ret after, pciDriverAttach pci answers r.world d = .ok (ret, after) ∧
      r' = r.afterAttach d ret after := by
  cases outcome : pciDriverAttach pci answers r.world d with
  | ok result => exact ⟨result.1, result.2, rfl, Option.some.inj (taken.symm.trans (step_attach outcome))⟩
  | error fault => simp [step, outcome] at taken

theorem detach_of_step (taken : step pci r (.detach d) = some r') :
    ∃ slot owner, r.world.kernel.drvdata d = some slot ∧
      (r.world.driverContexts slot).pciDev = some owner ∧
      r' = r.afterDetach d (r.world.detached pci owner slot) := by
  cases outcome : pciDriverDetach pci r.world d with
  | ok after =>
    obtain ⟨slot, owner, chosen, used, rfl⟩ := detach_found outcome
    exact ⟨slot, owner, chosen, used, Option.some.inj (taken.symm.trans (step_detach outcome))⟩
  | error fault => simp [step, outcome] at taken

end Step

/-- `dev_class` is a class that exists: `class_create` has made it and nothing destroyed it. -/
def classLive {Dev : Type} (w : World Dev) : Prop := w.kernel.liveClass w.devClass = true

instance {Dev : Type} (w : World Dev) : Decidable (classLive w) :=
  inferInstanceAs (Decidable (w.kernel.liveClass w.devClass = true))

/-- The run state once `module_load` has succeeded. -/
def RunState.start {Dev : Type} (world : World Dev) : RunState Dev where
  world := world
  attached := ∅
  bound := ∅
  mapped := fun _ => none

/-! ## A card and answers for concrete runs -/

/-- An SSX10A with an IO BAR of 256 ports and `memSize` bytes of memory. -/
def sampleCard (memSize : ULong) : PciDev where
  bars := fun bar =>
    match bar.val with
    | 0 => { flags := IORESOURCE_IO, start := 0xc000, len := 256 }
    | 1 => { flags := IORESOURCE_MEM, start := 0xfebf0000, len := memSize }
    | _ => { flags := 0, start := 0, len := 0 }
  irq := 11

/-- The answers to the `n`-th attach where nothing fails but, from the second on,
`device_create` (EEXIST: every node is named `PCI_DEVICE_NAME`). -/
def sampleAnswers (n : Nat) : AttachAnswers where
  enable := .ok
  hold := ⟨.ok, 0xffffc90000000000 + BitVec.ofNat 64 (n * 8192)⟩
  cdevAdd := .ok
  deviceCreate := if n = 0 then .ok else .error 16

def sampleLoad : LoadAnswers where
  allocChrdev := .ok
  major := 250
  classCreate := .created
  registerDriver := .ok

/-! ## The exits of module_load -/

section Load
variable {Dev : Type} {load : LoadAnswers}

theorem load_unreserved (refused : load.allocChrdev ≠ .ok) (w : World Dev) :
    moduleLoad load w = (load.allocChrdev.code, w) := by
  have negative : load.allocChrdev.code < 0 := by simpa using refused
  unfold moduleLoad
  rw [Kernel.allocChrdevRegion_refused refused]
  exact if_pos negative

/-- The world in which `class_create`'s result is looked at. -/
def World.classed (w : World Dev) (load : LoadAnswers) : World Dev :=
  let reserved := { w.kernel with
    chrdevs := w.kernel.chrdevs ++ Kernel.devRange ⟨load.major, 0⟩ MAX_DEVICE }
  { w with
    ssxaDevno := ⟨load.major, 0⟩
    major := load.major
    driverContexts := initDriverContexts 0 MAX_DEVICE
    devClass := (reserved.classCreate load.classCreate).1
    kernel := (reserved.classCreate load.classCreate).2 }

theorem load_reserved (granted : load.allocChrdev = .ok) (w : World Dev) :
    moduleLoad load w =
      let classed := w.classed load
      if load.classCreate = .null then
        (-1, { classed with
          kernel := classed.kernel.unregisterChrdevRegion ⟨load.major, 0⟩ MAX_DEVICE })
      else if load.registerDriver = .ok then (0, classed)
      else (load.registerDriver.code, { classed with
        kernel := (classed.kernel.classDestroy classed.devClass).unregisterChrdevRegion
          ⟨load.major, 0⟩ MAX_DEVICE }) := by
  unfold moduleLoad Kernel.allocChrdevRegion
  rw [granted]
  dsimp only
  rw [if_neg (Int.lt_irrefl 0)]
  have null_iff : (w.classed load).devClass = .null ↔ load.classCreate = .null := by
    unfold World.classed
    cases load.classCreate with
    | null => simp [Kernel.classCreate]
    | errPtr => simp [Kernel.classCreate]
    | created => simp [Kernel.classCreate]
  by_cases isNull : load.classCreate = .null
  · exact (if_pos (null_iff.mpr isNull)).trans (if_pos isNull).symm
  · refine (if_neg (fun null => isNull (null_iff.mp null))).trans ?_
    rw [if_neg isNull]
    cases load.registerDriver with
    | ok => rfl
    | error errno =>
      have negative : (Answer.error errno).code < 0 := by simp
      exact if_pos negative

/-- A load that succeeds leaves the world `class_create` left, its class not NULL. -/
theorem load_classed {w world : World Dev}
    (loaded : moduleLoad load w = (0, world)) :
    load.allocChrdev = .ok ∧ load.classCreate ≠ .null ∧ world = w.classed load := by
  by_cases granted : load.allocChrdev = .ok
  · rw [load_reserved granted] at loaded
    dsimp only at loaded
    by_cases isNull : load.classCreate = .null
    · rw [if_pos isNull] at loaded
      exact absurd (Prod.mk.inj loaded).1 (by decide)
    · rw [if_neg isNull] at loaded
      by_cases registered : load.registerDriver = .ok
      · rw [if_pos registered] at loaded
        exact ⟨granted, isNull, (Prod.mk.inj loaded).2.symm⟩
      · rw [if_neg registered] at loaded
        exact absurd (Prod.mk.inj loaded).1 (by simpa using registered)
  · rw [load_unreserved granted] at loaded
    exact absurd (Prod.mk.inj loaded).1 (by simpa using granted)

/-- What `module_load` leaves when it succeeds. -/
theorem load_success {world : World Dev} (loaded : moduleLoad load World.boot = (0, world)) :
    world.devAttachCounter = 0 ∧ world.driverContexts = initDriverContexts 0 MAX_DEVICE ∧
      world.kernel.mappings = [] := by
  obtain ⟨_, _, rfl⟩ := load_classed loaded
  refine ⟨rfl, rfl, ?_⟩
  unfold World.classed
  cases load.classCreate <;> rfl

end Load

end LddLearn.Pcidev02
