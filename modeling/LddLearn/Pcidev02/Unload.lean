import LddLearn.Pcidev02.Bound
import LddLearn.Pcidev02.Mounting

/-!
# Loading, unloading and the class

`module_unload` destroys the class and gives the minor range back before
`pci_unregister_driver` detaches the devices still bound, and devices may still be
attached until that returns. `module_load` takes an ERR_PTR from `class_create` for a
class. A run here is a load, then callbacks with one `module_unload` among them, and each
call is judged by the class and the cdevs it finds.
-/

set_option autoImplicit false

namespace LddLearn.Pcidev02
open LddLearn.Linux LddLearn.Ssxa LddLearn.Library.Run

/-! ## Property and condition -/

structure ModuleState (Dev : Type) where
  core : RunState Dev
  unloading : Bool

inductive ModuleCall (Dev : Type) where
  | callback (c : Callback Dev)
  | unload
  deriving DecidableEq, Repr

section Statements
variable {Dev : Type}

/-- The module once `module_load` has succeeded. -/
def ModuleState.start (world : World Dev) : ModuleState Dev := ⟨.start world, false⟩

/-- A class handed to the kernel is live, and a cdev is added in a reserved range. -/
def EventSound : Event Dev ContextPtr → Prop
  | .cdevAdd _ _ reserved => reserved = true
  | .deviceCreate _ live => live = true
  | .deviceDestroy _ live _ _ => live = true
  | .classDestroy _ live => live = true
  | _ => True

/-- No class was used that is not there, and every registered cdev has a reserved number. -/
structure TablesSound (k : DriverKernel Dev) : Prop where
  log : ∀ event ∈ k.log, EventSound event
  cdevs : ∀ slot, ∀ registration ∈ k.cdevs slot, registration.devno ∈ k.chrdevs

/-- An attach past `pci_enable_device` picks a context, and finds the class live if it gets its
cdev. A detach finds a context and the class live, and `module_unload` finds the class live and
no cdev registered. -/
def InTime (m : ModuleState Dev) : ModuleCall Dev → Prop
  | .callback (.attach _ answers) => answers.enable = .ok →
      (∃ slot : ContextPtr, m.core.world.devAttachCounter = slot.val) ∧
        (answers.Mounts → classLive m.core.world)
  | .callback (.detach d) => m.core.world.kernel.drvdata d ≠ none ∧ classLive m.core.world
  | .unload => classLive m.core.world ∧ ∀ slot, m.core.world.kernel.cdevs slot = []

/-- An ERR_PTR is not handed to `class_destroy`. -/
def KeepsErrPtr (load : LoadAnswers) : Prop :=
  load.allocChrdev = .ok → load.classCreate = .errPtr → load.registerDriver = .ok

end Statements

variable {Dev : Type} [DecidableEq Dev] {pci : Dev → PciDev} {answers : AttachAnswers}
  {load : LoadAnswers} {m m' : ModuleState Dev} {w after world : World Dev} {d : Dev}
  {slot : ContextPtr}

def moduleStep (pci : Dev → PciDev) (m : ModuleState Dev) : ModuleCall Dev → Option (ModuleState Dev)
  | .callback c => (step pci m.core c).map fun core => { m with core }
  | .unload => some { core := { m.core with world := moduleUnload m.core.world }, unloading := true }

/-- The PCI core's calls, and one `module_unload`. -/
def ModuleCalls (m : ModuleState Dev) : ModuleCall Dev → Prop
  | .callback c => CoreCalls m.core c
  | .unload => m.unloading = false

instance (m : ModuleState Dev) : ∀ c : ModuleCall Dev, Decidable (ModuleCalls m c)
  | .callback c => inferInstanceAs (Decidable (CoreCalls m.core c))
  | .unload => inferInstanceAs (Decidable (m.unloading = false))

/-- The call has an outcome and leaves the tables sound. -/
def LeavesSound (pci : Dev → PciDev) : ModuleState Dev → ModuleCall Dev → Prop :=
  Leads (moduleStep pci) fun m => TablesSound m.core.world.kernel

/-- The load, and every call after a load that succeeded, leave the tables sound. -/
def RunSound (pci : Dev → PciDev) (load : LoadAnswers) (calls : List (ModuleCall Dev)) : Prop :=
  TablesSound (moduleLoad load (World.boot : World Dev)).2.kernel ∧
    ∀ world, moduleLoad load World.boot = (0, world) →
      Each (moduleStep pci) (LeavesSound pci) (.start world) calls

def RunInTime (pci : Dev → PciDev) (load : LoadAnswers) (calls : List (ModuleCall Dev)) : Prop :=
  KeepsErrPtr load ∧ ∀ world, moduleLoad load World.boot = (0, world) →
    Each (moduleStep pci) InTime (.start world) calls

/-- A live class comes with the reserved range; all cdevs are registered in that range, and
drvdata is a context that was given to a device. -/
structure ClassInv (m : ModuleState Dev) : Prop where
  counter_le : m.core.world.devAttachCounter ≤ MAX_DEVICE
  sound : TablesSound m.core.world.kernel
  reserved : classLive m.core.world → ∀ slot, m.core.world.devNo slot ∈ m.core.world.kernel.chrdevs
  range : ∀ slot, m.core.world.devNo slot ∈ Kernel.devRange m.core.world.ssxaDevno MAX_DEVICE
  registered : ∀ slot, ∀ registration ∈ m.core.world.kernel.cdevs slot,
    registration.devno ∈ Kernel.devRange m.core.world.ssxaDevno MAX_DEVICE
  used : DrvdataUsed m.core.world

/-! ## The tables through one call -/

omit [DecidableEq Dev] in
theorem eventSound_of_io {event : Event Dev ContextPtr} (io : event.IoEvent) : EventSound event := by
  cases event with
  | ioremap mapping => trivial
  | memsetIo addr size => trivial
  | iounmap addr owner => trivial
  | pciReleaseRegions dev held => trivial
  | pciReleaseRegion dev bar held => trivial
  | cdevAdd cdev devno reserved => exact io.elim
  | cdevDel cdev owner => exact io.elim
  | deviceCreate cls live => exact io.elim
  | deviceDestroy cls live devno owner => exact io.elim
  | classDestroy cls live => exact io.elim

omit [DecidableEq Dev] in
theorem TablesSound.of_same {k k' : DriverKernel Dev} (sound : TablesSound k) (same : k.SameChars k') :
    TablesSound k' := by
  obtain ⟨io, log, ioEvents⟩ := same.log
  constructor
  · intro event member
    rw [log] at member
    cases List.mem_append.mp member with
    | inl earlier => exact sound.log event earlier
    | inr later => exact eventSound_of_io (ioEvents event later)
  · rw [same.cdevs, same.chrdevs]
    exact sound.cdevs

omit [DecidableEq Dev] in
/-- What is registered after a mount is the device's cdev or was registered before. -/
theorem Mounted.mem_cdevs (mounted : Mounted answers slot d w after) {any : ContextPtr}
    {registration : Registration Dev} (member : registration ∈ after.kernel.cdevs any) :
    registration = ⟨w.devNo slot, d⟩ ∨ registration ∈ w.kernel.cdevs any := by
  rw [mounted.cdevs] at member
  by_cases here : any = slot
  · subst here
    rw [Function.update_self] at member
    exact List.mem_cons.mp member
  · rw [Function.update_of_ne here] at member
    exact Or.inr member

omit [DecidableEq Dev] in
/-- The events of a mount are sound exactly when the class is live. -/
theorem Mounted.sound_iff (mounted : Mounted answers slot d w after) (sound : TablesSound w.kernel)
    (reserved : classLive w → w.devNo slot ∈ w.kernel.chrdevs) :
    TablesSound after.kernel ↔ classLive w := by
  obtain ⟨io, ioEvents, log⟩ := mounted.log
  constructor
  · intro afterSound
    have created : EventSound (.deviceCreate w.devClass (w.kernel.liveClass w.devClass) :
        Event Dev ContextPtr) := afterSound.log _ (by rw [log]; simp)
    exact created
  · intro live
    have numbered := reserved live
    constructor
    · intro event member
      rw [log] at member
      simp only [List.mem_append, List.mem_cons, List.not_mem_nil, or_false] at member
      rcases member with (earlier | between) | rfl | rfl
      · exact sound.log event earlier
      · exact eventSound_of_io (ioEvents event between)
      · exact decide_eq_true numbered
      · exact live
    · intro any registration member
      rw [mounted.chrdevs]
      cases mounted.mem_cdevs member with
      | inl new => exact new ▸ numbered
      | inr old => exact sound.cdevs any registration old

omit [DecidableEq Dev] in
theorem Unmounted.cdevs_subset (unmounted : Unmounted slot w after) (any : ContextPtr)
    {registration : Registration Dev} (member : registration ∈ after.kernel.cdevs any) :
    registration ∈ w.kernel.cdevs any := by
  rw [unmounted.cdevs] at member
  by_cases here : any = slot
  · rw [here, Function.update_self] at member
    exact here ▸ List.mem_of_mem_tail member
  · rwa [Function.update_of_ne here] at member

omit [DecidableEq Dev] in
theorem Unmounted.sound_iff (unmounted : Unmounted slot w after) (sound : TablesSound w.kernel) :
    TablesSound after.kernel ↔ classLive w := by
  obtain ⟨io, ioEvents, log⟩ := unmounted.log
  constructor
  · intro afterSound
    have destroyed : EventSound (.deviceDestroy w.devClass (w.kernel.liveClass w.devClass)
        (w.devNo slot) ((w.kernel.nodeIn w.devClass (w.devNo slot)).map (·.owner)) :
        Event Dev ContextPtr) := afterSound.log _ (by rw [log]; simp)
    exact destroyed
  · intro live
    constructor
    · intro event member
      rw [log] at member
      simp only [List.mem_append, List.mem_cons, List.not_mem_nil, or_false] at member
      rcases member with (earlier | rfl | rfl) | later
      · exact sound.log event earlier
      · exact live
      · trivial
      · exact eventSound_of_io (ioEvents event later)
    · intro any registration member
      rw [unmounted.chrdevs]
      exact sound.cdevs any registration (unmounted.cdevs_subset any member)

omit [DecidableEq Dev] in
/-- After `class_destroy` the class is no longer live. -/
theorem not_classLive_moduleUnload (w : World Dev) : ¬ classLive (moduleUnload w) := by
  unfold classLive moduleUnload
  cases class_ : w.devClass with
  | null => simp [Kernel.liveClass]
  | errPtr => simp [Kernel.liveClass]
  | valid serial =>
    simp [Kernel.liveClass, Kernel.classDestroy, Kernel.unregisterChrdevRegion]

omit [DecidableEq Dev] in
theorem moduleUnload_sound_iff (sound : TablesSound w.kernel)
    (registered : ∀ slot, ∀ registration ∈ w.kernel.cdevs slot,
      registration.devno ∈ Kernel.devRange w.ssxaDevno MAX_DEVICE) :
    TablesSound (moduleUnload w).kernel ↔ classLive w ∧ ∀ slot, w.kernel.cdevs slot = [] := by
  have log : (moduleUnload w).kernel.log =
      w.kernel.log ++ [.classDestroy w.devClass (w.kernel.liveClass w.devClass)] := rfl
  have chrdevs : (moduleUnload w).kernel.chrdevs =
      w.kernel.chrdevs.filter (· ∉ Kernel.devRange w.ssxaDevno MAX_DEVICE) := rfl
  constructor
  · intro afterSound
    constructor
    · have destroyed : EventSound (.classDestroy w.devClass (w.kernel.liveClass w.devClass) :
          Event Dev ContextPtr) := afterSound.log _ (by rw [log]; simp)
      exact destroyed
    · intro slot
      apply List.eq_nil_iff_forall_not_mem.mpr
      intro registration member
      have left := afterSound.cdevs slot registration member
      rw [chrdevs] at left
      have outside := (List.mem_filter.mp left).2
      exact absurd (registered slot registration member) (of_decide_eq_true outside)
  · rintro ⟨live, empty⟩
    constructor
    · intro event member
      rw [log] at member
      cases List.mem_append.mp member with
      | inl earlier => exact sound.log event earlier
      | inr last => exact List.mem_singleton.mp last ▸ live
    · intro slot registration member
      have none_left : (moduleUnload w).kernel.cdevs slot = [] := empty slot
      rw [none_left] at member
      exact absurd member (by simp)

/-! ## The invariant -/

theorem ClassInv.turned_back {bound attached : Finset Dev} {mapped : Dev → Option (Mapping Dev)}
    (before : ClassInv m) (picked : m.core.world.devAttachCounter = slot.val)
    (effect : PastEnable slot d m.core.world 0 after)
    (same : m.core.world.kernel.SameChars after.kernel)
    (ssxaDevno : after.ssxaDevno = m.core.world.ssxaDevno) :
    ClassInv { m with core := ⟨after, attached, bound, mapped⟩ } where
  counter_le := effect.counter_le picked
  sound := before.sound.of_same same
  reserved := by
    intro live any
    have alive := (classLive_iff_of_same effect.devClass same.classes).mp live
    change after.devNo any ∈ after.kernel.chrdevs
    rw [effect.devNo, same.chrdevs]
    exact before.reserved alive any
  range := by
    intro any
    change after.devNo any ∈ Kernel.devRange after.ssxaDevno MAX_DEVICE
    rw [effect.devNo, ssxaDevno]
    exact before.range any
  registered := by
    change ∀ any, ∀ registration ∈ after.kernel.cdevs any,
      registration.devno ∈ Kernel.devRange after.ssxaDevno MAX_DEVICE
    rw [same.cdevs, ssxaDevno]
    exact before.registered
  used := effect.drvdataUsed before.used

theorem ClassInv.mounted {bound attached : Finset Dev} {mapped : Dev → Option (Mapping Dev)}
    (before : ClassInv m) (picked : m.core.world.devAttachCounter = slot.val)
    (effect : PastEnable slot d m.core.world 1 after)
    (mounted : Mounted answers slot d m.core.world after) (live : classLive m.core.world) :
    ClassInv { m with core := ⟨after, attached, bound, mapped⟩ } where
  counter_le := effect.counter_le picked
  sound := (mounted.sound_iff before.sound fun alive => before.reserved alive slot).mpr live
  reserved := by
    intro _ any
    change after.devNo any ∈ after.kernel.chrdevs
    rw [effect.devNo, mounted.chrdevs]
    exact before.reserved live any
  range := by
    intro any
    change after.devNo any ∈ Kernel.devRange after.ssxaDevno MAX_DEVICE
    rw [effect.devNo, mounted.ssxaDevno]
    exact before.range any
  registered := by
    intro any registration member
    change registration ∈ after.kernel.cdevs any at member
    change registration.devno ∈ Kernel.devRange after.ssxaDevno MAX_DEVICE
    rw [mounted.ssxaDevno]
    cases mounted.mem_cdevs member with
    | inl new => exact new ▸ before.range slot
    | inr old => exact before.registered any registration old
  used := effect.drvdataUsed before.used

theorem ClassInv.detached {bound attached : Finset Dev} {mapped : Dev → Option (Mapping Dev)}
    (before : ClassInv m) (owner : Dev) (live : classLive m.core.world) :
    ClassInv { m with core := ⟨m.core.world.detached pci owner slot, attached, bound, mapped⟩ } where
  counter_le := detached_counter_le before.counter_le
  sound := ((detached_unmounted pci m.core.world owner slot).sound_iff before.sound).mpr live
  reserved := by
    intro _ any
    change (m.core.world.detached pci owner slot).devNo any ∈
      (m.core.world.detached pci owner slot).kernel.chrdevs
    rw [detached_devNo, (detached_unmounted pci m.core.world owner slot).chrdevs]
    exact before.reserved live any
  range := by
    intro any
    change (m.core.world.detached pci owner slot).devNo any ∈
      Kernel.devRange (m.core.world.detached pci owner slot).ssxaDevno MAX_DEVICE
    rw [detached_devNo, detached_ssxaDevno]
    exact before.range any
  registered := by
    intro any registration member
    change registration.devno ∈
      Kernel.devRange (m.core.world.detached pci owner slot).ssxaDevno MAX_DEVICE
    have unmounted := detached_unmounted pci m.core.world owner slot
    rw [detached_ssxaDevno]
    exact before.registered any registration (unmounted.cdevs_subset any member)
  used := before.used.detached pci owner slot

omit [DecidableEq Dev] in
theorem ClassInv.unloaded (before : ClassInv m) (inTime : InTime m .unload) :
    ClassInv { core := { m.core with world := moduleUnload m.core.world }, unloading := true } where
  counter_le := before.counter_le
  sound := (moduleUnload_sound_iff before.sound before.registered).mpr inTime
  reserved := fun live => absurd live (not_classLive_moduleUnload m.core.world)
  range := before.range
  registered := before.registered
  used := before.used

/-! ## One call -/

theorem moduleStep_attach {ret : Int}
    (outcome : pciDriverAttach pci answers m.core.world d = .ok (ret, after)) :
    moduleStep pci m (.callback (.attach d answers)) =
      some { m with core := m.core.afterAttach d ret after } := by
  rw [moduleStep, step_attach outcome]
  rfl

theorem moduleStep_detach (outcome : pciDriverDetach pci m.core.world d = .ok after) :
    moduleStep pci m (.callback (.detach d)) = some { m with core := m.core.afterDetach d after } := by
  rw [moduleStep, step_detach outcome]
  rfl

theorem ClassInv.attach_untouched {ret : Int} (before : ClassInv m) :
    ClassInv { m with core := m.core.afterAttach d ret m.core.world } :=
  ⟨before.counter_le, before.sound, before.reserved, before.range, before.registered, before.used⟩

theorem ClassInv.attach_kept (before : ClassInv m)
    (inTime : InTime m (.callback (.attach d answers))) :
    Leads (moduleStep pci) ClassInv m (.callback (.attach d answers)) := by
  by_cases enabled : answers.enable = .ok
  · obtain ⟨⟨slot, picked⟩, live⟩ := inTime enabled
    by_cases mounts : answers.Mounts
    · obtain ⟨after, outcome, effect, mounted⟩ := attach_mounts pci d picked enabled mounts
      exact ⟨_, moduleStep_attach outcome, before.mounted picked effect mounted (live mounts)⟩
    · obtain ⟨after, outcome, effect, same, ssxaDevno⟩ := attach_turned_back pci d picked enabled mounts
      exact ⟨_, moduleStep_attach outcome, before.turned_back picked effect same ssxaDevno⟩
  · exact ⟨_, moduleStep_attach (attach_not_enabled pci d before.counter_le enabled),
      before.attach_untouched⟩

theorem ClassInv.kept (c : ModuleCall Dev) (before : ClassInv m) (inTime : InTime m c) :
    Leads (moduleStep pci) ClassInv m c := by
  cases c with
  | callback c =>
    cases c with
    | attach d answers => exact before.attach_kept inTime
    | detach d =>
      obtain ⟨slot, chosen⟩ := Option.ne_none_iff_exists'.mp inTime.1
      obtain ⟨owner, used⟩ := before.used d slot chosen
      exact ⟨_, moduleStep_detach (detach_effect chosen used), before.detached owner inTime.2⟩
  | unload => exact ⟨_, rfl, before.unloaded inTime⟩

theorem attach_of_moduleStep (taken : moduleStep pci m (.callback (.attach d answers)) = some m') :
    ∃ ret after, pciDriverAttach pci answers m.core.world d = .ok (ret, after) ∧
      m' = { m with core := m.core.afterAttach d ret after } := by
  obtain ⟨core, stepped, rfl⟩ := Option.map_eq_some_iff.mp taken
  obtain ⟨ret, after, outcome, rfl⟩ := attach_of_step stepped
  exact ⟨ret, after, outcome, rfl⟩

theorem detach_of_moduleStep (taken : moduleStep pci m (.callback (.detach d)) = some m') :
    ∃ slot owner, m.core.world.kernel.drvdata d = some slot ∧
      m' = { m with core := m.core.afterDetach d (m.core.world.detached pci owner slot) } := by
  obtain ⟨core, stepped, rfl⟩ := Option.map_eq_some_iff.mp taken
  obtain ⟨slot, owner, chosen, _, rfl⟩ := detach_of_step stepped
  exact ⟨slot, owner, chosen, rfl⟩

/-- A call has an outcome and leaves the tables sound exactly when it comes in time. -/
theorem leavesSound_iff (c : ModuleCall Dev) (before : ClassInv m) :
    LeavesSound pci m c ↔ InTime m c := by
  constructor
  · rintro ⟨m', taken, sound⟩
    cases c with
    | callback c =>
      cases c with
      | attach d answers =>
        intro enabled
        obtain ⟨ret, after, outcome, rfl⟩ := attach_of_moduleStep taken
        obtain ⟨slot, picked⟩ := slot_of_outcome before.counter_le enabled outcome
        refine ⟨⟨slot, picked⟩, fun mounts => ?_⟩
        obtain ⟨after', outcome', _, mounted⟩ := attach_mounts pci d picked enabled mounts
        obtain ⟨_, rfl⟩ := Prod.mk.inj (Except.ok.inj (outcome'.symm.trans outcome))
        exact (mounted.sound_iff before.sound fun alive => before.reserved alive slot).mp sound
      | detach d =>
        obtain ⟨slot, owner, chosen, rfl⟩ := detach_of_moduleStep taken
        have unmounted := detached_unmounted pci m.core.world owner slot
        exact ⟨by simp [chosen], (unmounted.sound_iff before.sound).mp sound⟩
    | unload =>
      obtain rfl := Option.some.inj taken
      exact (moduleUnload_sound_iff before.sound before.registered).mp sound
  · intro inTime
    have kept : Leads (moduleStep pci) ClassInv m c := before.kept c inTime
    obtain ⟨m', taken, after⟩ := kept
    exact ⟨m', taken, after.sound⟩

/-! ## Load -/

theorem classed_quiet (Dev : Type) (load : LoadAnswers) :
    ((World.boot : World Dev).classed load).kernel.log = [] ∧
      ((World.boot : World Dev).classed load).kernel.cdevs = (fun _ => []) ∧
      ((World.boot : World Dev).classed load).kernel.chrdevs =
        Kernel.devRange ⟨load.major, 0⟩ MAX_DEVICE := by
  unfold World.classed
  cases load.classCreate with
  | null => exact ⟨rfl, rfl, rfl⟩
  | errPtr => exact ⟨rfl, rfl, rfl⟩
  | created => exact ⟨rfl, rfl, rfl⟩

omit [DecidableEq Dev] in
theorem tablesSound_of_quiet {k : DriverKernel Dev} (log : k.log = []) (cdevs : k.cdevs = fun _ => []) :
    TablesSound k := by
  constructor
  · intro event member
    rw [log] at member
    exact absurd member (by simp)
  · intro slot registration member
    rw [cdevs] at member
    exact absurd member (by simp)

omit [DecidableEq Dev] in
theorem destroyed_sound_iff (log : w.kernel.log = []) (cdevs : w.kernel.cdevs = fun _ => [])
    (first : DevT) (count : Nat) :
    TablesSound ((w.kernel.classDestroy w.devClass).unregisterChrdevRegion first count) ↔
      classLive w := by
  have logged : ((w.kernel.classDestroy w.devClass).unregisterChrdevRegion first count).log =
      w.kernel.log ++ [.classDestroy w.devClass (w.kernel.liveClass w.devClass)] := rfl
  rw [log, List.nil_append] at logged
  constructor
  · intro sound
    have destroyed : EventSound (.classDestroy w.devClass (w.kernel.liveClass w.devClass) :
        Event Dev ContextPtr) := sound.log _ (by rw [logged]; simp)
    exact destroyed
  · intro live
    constructor
    · intro event member
      rw [logged] at member
      exact List.mem_singleton.mp member ▸ live
    · intro slot registration member
      change registration ∈ w.kernel.cdevs slot at member
      rw [cdevs] at member
      exact absurd member (by simp)

omit [DecidableEq Dev] in
/-- A load hands `class_destroy` an ERR_PTR, or leaves the tables sound. -/
theorem load_sound_iff (load : LoadAnswers) :
    TablesSound (moduleLoad load (World.boot : World Dev)).2.kernel ↔ KeepsErrPtr load := by
  obtain ⟨log, cdevs, _⟩ := classed_quiet Dev load
  by_cases granted : load.allocChrdev = .ok
  · rw [load_reserved granted]
    dsimp only
    by_cases isNull : load.classCreate = .null
    · rw [if_pos isNull]
      have keeps : KeepsErrPtr load := fun _ isErr => absurd (isNull.symm.trans isErr) (by decide)
      exact ⟨fun _ => keeps, fun _ => tablesSound_of_quiet log cdevs⟩
    · rw [if_neg isNull]
      by_cases registered : load.registerDriver = .ok
      · rw [if_pos registered]
        exact ⟨fun _ _ _ => registered, fun _ => tablesSound_of_quiet log cdevs⟩
      · rw [if_neg registered]
        refine (destroyed_sound_iff log cdevs ⟨load.major, 0⟩ MAX_DEVICE).trans ?_
        rw [classed_live_iff _ isNull]
        exact ⟨fun notErr _ isErr => absurd isErr notErr,
          fun keeps isErr => registered (keeps granted isErr)⟩
  · rw [load_unreserved granted]
    exact ⟨fun _ isGranted => absurd isGranted granted, fun _ => tablesSound_of_quiet rfl rfl⟩

omit [DecidableEq Dev] in
/-- The minors of the contexts are those of the reserved range. -/
theorem classed_devNo (load : LoadAnswers) (slot : ContextPtr) :
    ((World.boot : World Dev).classed load).devNo slot ∈
      Kernel.devRange ⟨load.major, 0⟩ MAX_DEVICE :=
  Kernel.mem_devRange.mpr ⟨slot.val, slot.isLt, rfl⟩

omit [DecidableEq Dev] in
theorem ClassInv.start (loaded : moduleLoad load World.boot = (0, world)) :
    ClassInv (ModuleState.start world) := by
  have used : DrvdataUsed world := drvdataUsed_of_loaded loaded
  obtain ⟨_, _, same⟩ := load_classed loaded
  obtain ⟨log, cdevs, chrdevs⟩ := classed_quiet Dev load
  subst same
  refine ⟨(Bounded.start loaded).counter_le, tablesSound_of_quiet log cdevs,
    fun _ slot => ?_, classed_devNo load, ?_, used⟩
  · exact chrdevs.symm ▸ classed_devNo load slot
  · intro slot registration member
    change registration ∈ ((World.boot : World Dev).classed load).kernel.cdevs slot at member
    rw [cdevs] at member
    exact absurd member (by simp)

/-! ## Runs -/

/-- Whatever the kernel answers to the load and the calls after it: every call has an outcome, no
class that is not there is used, and no cdev is added or left in a range given back, exactly when
the load destroys no ERR_PTR and every call comes in time. -/
theorem runSound_iff_inTime (load : LoadAnswers) (calls : List (ModuleCall Dev)) :
    RunSound pci load calls ↔ RunInTime pci load calls := by
  apply and_congr (load_sound_iff load)
  apply forall_congr'
  intro world
  apply imp_congr_right
  intro loaded
  have start : ClassInv (ModuleState.start world) := .start loaded
  refine each_iff_each (fun m c before _ => ?_) ?_ start (each_trivial _ calls)
  · exact leavesSound_iff c before
  · intro m c m' before _ inTime taken
    exact (before.kept c inTime).reached taken

end LddLearn.Pcidev02
