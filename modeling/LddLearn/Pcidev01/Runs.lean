import LddLearn.Pcidev01.Driver
import LddLearn.Pcidev01.TableMap

/-!
# Runs of probe, remove and unload

What each exit of `pci_probe` leaves behind, and the runs the PCI core makes: it
probes a device it has not bound, binds it when the probe returns a value ≥ 0,
removes bound devices only, and `module_unload` removes those still bound.
-/

set_option autoImplicit false

namespace LddLearn.Pcidev01
open LddLearn.Linux LddLearn.Library LddLearn.Library.Run

variable {Dev : Type} {first : Int} {size : Nat}

/-! ## The entry a minor designates -/

theorem minors_init_getElem? (size : Nat) (first : Int) (i : Nat) (inside : i < size) :
    (minors (pciCdevInit size first : Table Dev))[i]? = some (first + i) := by
  induction size generalizing first i with
  | zero => omega
  | succ size ih =>
    rw [minors_init_succ]
    cases i with
    | zero => simp
    | succ i =>
      rw [List.getElem?_cons_succ, ih (first + 1) i (by omega)]
      congr 1
      push_cast
      omega

theorem length_minors_init (size : Nat) (first : Int) :
    (minors (pciCdevInit size first : Table Dev)).length = size := by
  induction size generalizing first with
  | zero => rfl
  | succ size ih => rw [minors_init_succ, List.length_cons, ih]

/-- Entries stand at their minors' distance from the first. -/
theorem index_of_layout {before after : Table Dev} {pair : PciCdevPair Dev CdevPtr}
    (layout : minors (before ++ pair :: after) = minors (pciCdevInit size first : Table Dev)) :
    pair.minor = first + before.length := by
  have lengths : (before ++ pair :: after).length = size := by
    have := congrArg List.length layout
    rwa [length_minors_init, minors, List.length_map] at this
  have inside : before.length < size := by
    rw [List.length_append, List.length_cons] at lengths
    omega
  have here := congrArg (fun list : List Int => list[before.length]?) layout
  rw [minors_init_getElem? size first before.length inside] at here
  simpa [minors] using here

theorem modify_behind {α : Type} (f : α → α) (before : List α) (x : α) (after : List α) :
    (before ++ x :: after).modify before.length f = before ++ f x :: after := by
  induction before with
  | nil => rfl
  | cons head rest ih => simpa using ih

/-- With first minor 0 the minor is the index of its entry. -/
theorem setCdev_entry {before after : Table Dev} {pair : PciCdevPair Dev CdevPtr}
    (layout : minors (before ++ pair :: after) = minors (pciCdevInit size 0 : Table Dev))
    (cdev : CdevPtr) :
    setCdev (before ++ pair :: after) pair.minor cdev =
      .ok (before ++ { pair with cdev := some cdev } :: after) := by
  have index := index_of_layout layout
  have inside : 0 ≤ pair.minor ∧ pair.minor < (before ++ pair :: after).length := by
    rw [List.length_append, List.length_cons]
    omega
  have position : pair.minor.toNat = before.length := by omega
  rw [setCdev, if_pos inside, position, modify_behind]

/-- An entry keeps its minor, whatever else is written to it. -/
theorem minors_replace {before after : Table Dev} {pair other : PciCdevPair Dev CdevPtr}
    (same : other.minor = pair.minor) :
    minors (before ++ other :: after) = minors (before ++ pair :: after) := by
  simp [minors, same]

theorem Represents.setCdev {N : Numbering Dev first size} {before after : Table Dev}
    {pair : PciCdevPair Dev CdevPtr} (rep : Represents N (before ++ pair :: after))
    (cdev : CdevPtr) : Represents N (before ++ { pair with cdev := some cdev } :: after) where
  layout := by
    have sameMinors : minors (before ++ { pair with cdev := some cdev } :: after) =
        minors (before ++ pair :: after) := minors_replace rfl
    exact sameMinors.trans rep.layout
  holders := by
    intro other member d
    simp only [List.mem_append, List.mem_cons] at member
    rcases member with earlier | same | later
    · exact rep.holders other (by simp [earlier]) d
    · subst same
      exact rep.holders pair (by simp) d
    · exact rep.holders other (by simp [later]) d

/-! ## The exits of a probe -/

section Exits
variable [DecidableEq Dev] {pci : Dev → PciDev} {answers : ProbeAnswers} {w : World Dev} {d : Dev}
  {minor : Int} {table linked : Table Dev}

theorem probe_full (full : pciCdevAdd w.pciCdev d = (-1, w.pciCdev)) :
    pciProbe pci answers w d = .ok (0, w) := by
  unfold pciProbe
  rw [full]
  rfl

/-- The world of a probe that has taken an entry and got a cdev. -/
def World.taken (w : World Dev) (table : Table Dev) : World Dev :=
  { w with pciCdev := table, nextCdev := w.nextCdev + 1 }

/-- The entry stays taken when `cdev_add` fails. -/
theorem probe_unregistered (nonneg : 0 ≤ minor) (added : pciCdevAdd w.pciCdev d = (minor, table))
    (failed : answers.cdevAdd ≠ .ok) : pciProbe pci answers w d = .ok (0, w.taken table) := by
  unfold pciProbe
  rw [added]
  dsimp only
  rw [if_neg (by omega)]
  cases refused : answers.cdevAdd with
  | ok => exact absurd refused failed
  | error errno =>
    have negative : (Answer.error errno).code < 0 := by simp
    simp only [registerCdev, refused, Kernel.cdevAdd, if_pos negative]
    rfl

/-- The kernel of a probe that has registered its cdev and enabled the device. -/
def World.registered (w : World Dev) (answers : ProbeAnswers) (d : Dev) (minor : Int) :
    Kernel Dev CdevPtr :=
  ((w.kernel.cdevAdd d w.nextCdev ⟨w.major, minor⟩ .ok).2.pciEnableDevice d answers.enable).2

theorem probe_registered (nonneg : 0 ≤ minor) (added : pciCdevAdd w.pciCdev d = (minor, table))
    (links : setCdev table minor w.nextCdev = .ok linked) (granted : answers.cdevAdd = .ok) :
    pciProbe pci answers w d =
      let w' := w.taken linked
      let kernel := w.registered answers d minor
      if answers.regions = .ok then
        .ok (1, { w' with
          kernel := (kernel.pciRequestRegions (pci d) d PCI_REGIONS_NAME .ok).2
          scan := scanBars (pci d) w.scan })
      else .ok (0, { w' with kernel := kernel.cdevDel w.nextCdev }) := by
  unfold pciProbe
  rw [added]
  dsimp only
  rw [if_neg (by omega)]
  cases request : answers.regions with
  | ok =>
    simp only [registerCdev, granted, Kernel.cdevAdd, Int.lt_irrefl, if_false, links, Except.map,
      requestAndScan, request, Kernel.pciRequestRegions, ne_eq, not_true_eq_false, if_true]
    rfl
  | error errno =>
    have failed : (Answer.error errno).code ≠ 0 := by simp
    have refused : Answer.error errno ≠ .ok := by simp
    simp only [registerCdev, granted, Kernel.cdevAdd, Int.lt_irrefl, if_false, links, Except.map,
      requestAndScan, request, Kernel.pciRequestRegions, if_pos failed, if_neg refused]
    rfl

/-- A probe that has taken an entry returns 0 without a cdev, or goes on with its entry linked. -/
theorem registerCdev_outcome {ret : Int} {after : World Dev}
    (outcome : registerCdev pci answers w d minor = .ok (ret, after)) :
    (ret = 0 ∧ after = { w with nextCdev := w.nextCdev + 1 }) ∨
    ∃ linked, requestAndScan pci answers { w with
      nextCdev := w.nextCdev + 1
      pciCdev := linked
      kernel := (w.kernel.cdevAdd d w.nextCdev ⟨w.major, minor⟩ .ok).2 } d w.nextCdev =
        (ret, after) := by
  unfold registerCdev at outcome
  cases added : answers.cdevAdd with
  | error errno =>
    have failed : (Answer.error errno).code < 0 := by simp
    simp only [added, Kernel.cdevAdd, if_pos failed, Except.ok.injEq, Prod.mk.injEq] at outcome
    obtain ⟨rfl, rfl⟩ := outcome
    exact Or.inl ⟨rfl, rfl⟩
  | ok =>
    simp only [added, Kernel.cdevAdd, Int.lt_irrefl, if_false] at outcome
    cases links : setCdev w.pciCdev minor w.nextCdev with
    | error fault => simp [links, Except.map] at outcome
    | ok linked =>
      simp only [links, Except.map, Except.ok.injEq] at outcome
      exact Or.inr ⟨linked, outcome⟩

end Exits

/-! ## Runs -/

structure RunState (Dev : Type) where
  world : World Dev
  bound : Finset Dev
  loaded : Bool

inductive Callback (Dev : Type) where
  | probe (dev : Dev) (answers : ProbeAnswers)
  | remove (dev : Dev)
  | unload (boundDevices : List Dev)
  deriving DecidableEq, Repr

/-- The run state once `module_load` has succeeded. -/
def RunState.start (world : World Dev) : RunState Dev := ⟨world, ∅, true⟩

/-! ### The exits of module_load -/

section Load
variable {load : LoadAnswers}

theorem load_refused (refused : load.allocChrdev ≠ .ok) (w : World Dev) :
    moduleLoad load w = (load.allocChrdev.code, w) := by
  have negative : load.allocChrdev.code < 0 := by simpa using refused
  unfold moduleLoad
  rw [Kernel.allocChrdevRegion_refused refused]
  exact if_pos negative

/-- The world in which `pci_register_driver` is called. -/
def World.numbered (w : World Dev) (load : LoadAnswers) : World Dev :=
  { w with
    devno := ⟨load.major, 0⟩
    major := load.major
    pciCdev := pciCdevInit MAX_DEVICE 0
    kernel := { w.kernel with
      chrdevs := w.kernel.chrdevs ++ Kernel.devRange ⟨load.major, 0⟩ MAX_DEVICE } }

theorem load_numbered (granted : load.allocChrdev = .ok) (w : World Dev) :
    moduleLoad load w =
      if load.registerDriver = .ok then (0, w.numbered load)
      else (load.registerDriver.code, { w.numbered load with
        kernel := (w.numbered load).kernel.unregisterChrdevRegion ⟨load.major, 0⟩ 1 }) := by
  unfold moduleLoad Kernel.allocChrdevRegion
  rw [granted]
  dsimp only
  rw [if_neg (Int.lt_irrefl 0)]
  cases load.registerDriver with
  | ok => rfl
  | error errno =>
    have negative : (Answer.error errno).code < 0 := by simp
    rw [if_pos negative]
    rfl

/-- What `module_load` leaves when it succeeds. -/
theorem load_success {world : World Dev} (loaded : moduleLoad load World.boot = (0, world)) :
    world.pciCdev = pciCdevInit MAX_DEVICE 0 ∧ world.nextCdev = 0 ∧
      world.kernel.cdevs = (fun _ => []) ∧ world.kernel.log = [] := by
  by_cases granted : load.allocChrdev = .ok
  · rw [load_numbered granted] at loaded
    by_cases registered : load.registerDriver = .ok
    · rw [if_pos registered] at loaded
      obtain ⟨_, rfl⟩ := Prod.mk.inj loaded
      exact ⟨rfl, rfl, rfl, rfl⟩
    · rw [if_neg registered] at loaded
      exact absurd (Prod.mk.inj loaded).1 (by simpa using registered)
  · rw [load_refused granted] at loaded
    exact absurd (Prod.mk.inj loaded).1 (by simpa using granted)

end Load

variable [DecidableEq Dev]

def step (pci : Dev → PciDev) (r : RunState Dev) : Callback Dev → Option (RunState Dev)
  | .probe dev answers =>
    match pciProbe pci answers r.world dev with
    | .ok (ret, world) =>
      some { r with world, bound := if 0 ≤ ret then insert dev r.bound else r.bound }
    | .error _ => none
  | .remove dev =>
    some { r with world := pciRemove r.world dev, bound := r.bound.erase dev }
  | .unload boundDevices =>
    match moduleUnload boundDevices r.world with
    | .ok world => some ⟨world, ∅, false⟩
    | .error _ => none

/-- The PCI core's contract, while the module is in; unloading removes each bound device
once. -/
def CoreCalls (r : RunState Dev) : Callback Dev → Prop
  | .probe dev _ => r.loaded = true ∧ dev ∉ r.bound
  | .remove dev => r.loaded = true ∧ dev ∈ r.bound
  | .unload boundDevices =>
    r.loaded = true ∧ boundDevices.Nodup ∧ boundDevices.toFinset = r.bound

instance (r : RunState Dev) : ∀ c : Callback Dev, Decidable (CoreCalls r c)
  | .probe dev _ => inferInstanceAs (Decidable (r.loaded = true ∧ dev ∉ r.bound))
  | .remove dev => inferInstanceAs (Decidable (r.loaded = true ∧ dev ∈ r.bound))
  | .unload boundDevices => inferInstanceAs (Decidable
      (r.loaded = true ∧ boundDevices.Nodup ∧ boundDevices.toFinset = r.bound))

/-! ## A card and answers for concrete runs -/

/-- An SSX10A with an IO and a memory BAR. -/
def sampleCard : PciDev where
  bars := fun bar =>
    match bar.val with
    | 0 => { flags := IORESOURCE_IO, start := 0xc000, len := 256 }
    | 1 => { flags := IORESOURCE_MEM, start := 0xfebf0000, len := 8192 }
    | _ => { flags := 0, start := 0, len := 0 }
  irq := 11

def allGranted : ProbeAnswers := ⟨.ok, .ok, .ok⟩

def sampleLoad : LoadAnswers where
  allocChrdev := .ok
  major := 250
  registerDriver := .ok

end LddLearn.Pcidev01
