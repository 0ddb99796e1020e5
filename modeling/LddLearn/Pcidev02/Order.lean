import LddLearn.Pcidev02.Unload

/-!
# Calls in the right order

When calls come in time can be told without the tables: `class_create` has made a class,
every attach past `pci_enable_device` finds the counter in the array, devices are mounted
and detached before `module_unload` has begun, and that comes when no device is attached.
Behind it stands a count: a context has no more cdevs registered than there are attached
devices whose drvdata it is, however many share it.
-/

set_option autoImplicit false

namespace LddLearn.Pcidev02
open LddLearn.Linux LddLearn.Ssxa LddLearn.Library.Run

/-! ## The order and the count -/

section Statements
variable {Dev : Type}

/-- An attach past `pci_enable_device` finds the counter in the array, and gets no cdev once
`module_unload` has begun. A device is detached before that, and has a context. `module_unload`
comes when no device is attached. -/
def InOrder (m : ModuleState Dev) : ModuleCall Dev → Prop
  | .callback (.attach _ answers) => answers.enable = .ok →
      (0 ≤ m.core.world.devAttachCounter ∧ m.core.world.devAttachCounter < MAX_DEVICE) ∧
        (answers.Mounts → m.unloading = false)
  | .callback (.detach d) => m.core.world.kernel.drvdata d ≠ none ∧ m.unloading = false
  | .unload => m.core.attached = ∅

variable [DecidableEq Dev]

instance (m : ModuleState Dev) : ∀ c : ModuleCall Dev, Decidable (InOrder m c)
  | .callback (.attach _ answers) => inferInstanceAs (Decidable (answers.enable = .ok →
      (0 ≤ m.core.world.devAttachCounter ∧ m.core.world.devAttachCounter < MAX_DEVICE) ∧
        (answers.Mounts → m.unloading = false)))
  | .callback (.detach d) => inferInstanceAs (Decidable
      (m.core.world.kernel.drvdata d ≠ none ∧ m.unloading = false))
  | .unload => inferInstanceAs (Decidable (m.core.attached = ∅))

/-- `class_create` does not answer an ERR_PTR, and the calls come in order. -/
def RunInOrder (pci : Dev → PciDev) (load : LoadAnswers) (calls : List (ModuleCall Dev)) : Prop :=
  (load.allocChrdev = .ok → load.classCreate ≠ .errPtr) ∧
    ∀ world, moduleLoad load World.boot = (0, world) →
      Each (moduleStep pci) InOrder (.start world) calls

/-- The attached devices that have the context. -/
def holders (r : RunState Dev) (slot : ContextPtr) : Finset Dev :=
  r.attached.filter fun e => r.world.kernel.drvdata e = some slot

/-- No context has more registrations than attached devices have it. -/
structure CdevsHeld (r : RunState Dev) : Prop where
  bound : r.attached ⊆ r.bound
  cdevs : ∀ slot, (r.world.kernel.cdevs slot).length ≤ (holders r slot).card

/-- The class is live until the module is unloaded. -/
structure OrderInv (m : ModuleState Dev) : Prop where
  live : m.unloading = false → classLive m.core.world
  held : CdevsHeld m.core

omit [DecidableEq Dev] in
theorem CdevsHeld.unregistered {r : RunState Dev} (invariant : CdevsHeld r)
    (nobody : r.attached = ∅) (slot : ContextPtr) : r.world.kernel.cdevs slot = [] := by
  have counted := invariant.cdevs slot
  rw [holders, nobody, Finset.filter_empty, Finset.card_empty] at counted
  exact List.eq_nil_of_length_eq_zero (Nat.le_zero.mp counted)

end Statements

variable {Dev : Type} [DecidableEq Dev] {pci : Dev → PciDev} {answers : AttachAnswers}
  {load : LoadAnswers} {m m' : ModuleState Dev} {r r' : RunState Dev} {after world : World Dev}
  {d : Dev} {slot any : ContextPtr}

/-! ## Holders through one call -/

theorem holders_turned_back (absent : d ∉ r.attached)
    (drvdata : ∀ e, e ≠ d → after.kernel.drvdata e = r.world.kernel.drvdata e) (any : ContextPtr) :
    holders (r.afterAttach d 0 after) any = holders r any := by
  rw [holders, RunState.attached_turned_back absent]
  apply Finset.filter_congr
  intro e member
  have different : e ≠ d := fun same => absent (same ▸ member)
  change after.kernel.drvdata e = some any ↔ _
  rw [drvdata e different]

theorem holders_mounted (absent : d ∉ r.attached) (effect : PastEnable slot d r.world 1 after)
    (any : ContextPtr) : holders (r.afterAttach d 1 after) any =
      if any = slot then insert d (holders r slot) else holders r any := by
  have others : r.attached.filter (fun e => after.kernel.drvdata e = some any) = holders r any := by
    apply Finset.filter_congr
    intro e member
    have different : e ≠ d := fun same => absent (same ▸ member)
    rw [effect.drvdata, Function.update_of_ne different]
  have own : after.kernel.drvdata d = some slot := by
    rw [effect.drvdata, Function.update_self]
  change (insert d r.attached).filter (fun e => after.kernel.drvdata e = some any) = _
  rw [Finset.filter_insert, others, own]
  by_cases here : any = slot
  · subst here
    rw [if_pos rfl, if_pos rfl]
  · have elsewhere : some slot ≠ some any := fun same => here (Option.some.inj same).symm
    rw [if_neg elsewhere, if_neg here]

theorem holders_detached (owner : Dev) (slot any : ContextPtr) :
    holders (r.afterDetach d (r.world.detached pci owner slot)) any = (holders r any).erase d := by
  change (r.attached.erase d).filter (fun e => r.world.kernel.drvdata e = some any) = _
  rw [Finset.filter_erase]
  rfl

/-! ## The count through one call -/

theorem CdevsHeld.turned_back (before : CdevsHeld r) (called : d ∉ r.bound)
    (drvdata : ∀ e, e ≠ d → after.kernel.drvdata e = r.world.kernel.drvdata e)
    (cdevs : after.kernel.cdevs = r.world.kernel.cdevs) : CdevsHeld (r.afterAttach d 0 after) := by
  have absent : d ∉ r.attached := fun attached => called (before.bound attached)
  constructor
  · exact (Finset.erase_subset d r.attached).trans
      (before.bound.trans (Finset.subset_insert d r.bound))
  · intro any
    rw [holders_turned_back absent drvdata]
    change (after.kernel.cdevs any).length ≤ _
    rw [cdevs]
    exact before.cdevs any

theorem CdevsHeld.mounted (before : CdevsHeld r) (called : d ∉ r.bound)
    (effect : PastEnable slot d r.world 1 after) (mounted : Mounted answers slot d r.world after) :
    CdevsHeld (r.afterAttach d 1 after) := by
  have absent : d ∉ r.attached := fun attached => called (before.bound attached)
  constructor
  · exact Finset.insert_subset_insert d before.bound
  · intro any
    rw [holders_mounted absent effect]
    change (after.kernel.cdevs any).length ≤ _
    rw [mounted.cdevs]
    by_cases here : any = slot
    · subst here
      have new : d ∉ holders r any := fun member => absent (Finset.mem_filter.mp member).1
      rw [Function.update_self, List.length_cons, if_pos rfl, Finset.card_insert_of_notMem new]
      exact Nat.succ_le_succ (before.cdevs any)
    · rw [Function.update_of_ne here, if_neg here]
      exact before.cdevs any

/-- Whoever is detached, a context loses a registration where it loses a holder. -/
theorem CdevsHeld.detached (before : CdevsHeld r) (chosen : r.world.kernel.drvdata d = some slot)
    (owner : Dev) : CdevsHeld (r.afterDetach d (r.world.detached pci owner slot)) := by
  constructor
  · exact Finset.erase_subset_erase d before.bound
  · intro any
    rw [holders_detached]
    change ((r.world.detached pci owner slot).kernel.cdevs any).length ≤ _
    rw [(detached_unmounted pci r.world owner slot).cdevs]
    by_cases here : any = slot
    · subst here
      rw [Function.update_self, List.length_tail]
      exact (Nat.sub_le_sub_right (before.cdevs any) 1).trans Finset.pred_card_le_card_erase
    · have other : d ∉ holders r any := by
        intro member
        have own := (Finset.mem_filter.mp member).2
        exact here (Option.some.inj (own.symm.trans chosen))
      rw [Function.update_of_ne here, Finset.erase_eq_of_notMem other]
      exact before.cdevs any

theorem CdevsHeld.kept (c : Callback Dev) (before : CdevsHeld r) (called : CoreCalls r c)
    (taken : step pci r c = some r') : CdevsHeld r' := by
  cases c with
  | attach d answers =>
    obtain ⟨ret, after, outcome, rfl⟩ := attach_of_step taken
    rcases attach_reach pci answers r.world d with
      ⟨untouched, _⟩ | ⟨fault, faulted, _⟩ | ⟨slot, picked, enabled⟩
    · obtain ⟨rfl, rfl⟩ := Prod.mk.inj (Except.ok.inj (untouched.symm.trans outcome))
      exact before.turned_back called (fun _ _ => rfl) rfl
    · cases faulted.symm.trans outcome
    · by_cases mounts : answers.Mounts
      · obtain ⟨after', outcome', effect, mounted⟩ := attach_mounts pci d picked enabled mounts
        obtain ⟨rfl, rfl⟩ := Prod.mk.inj (Except.ok.inj (outcome'.symm.trans outcome))
        exact before.mounted called effect mounted
      · obtain ⟨after', outcome', effect, same, _⟩ := attach_turned_back pci d picked enabled mounts
        obtain ⟨rfl, rfl⟩ := Prod.mk.inj (Except.ok.inj (outcome'.symm.trans outcome))
        refine before.turned_back called (fun e different => ?_) same.cdevs
        rw [effect.drvdata, Function.update_of_ne different]
  | detach d =>
    obtain ⟨slot, owner, chosen, _, rfl⟩ := detach_of_step taken
    exact before.detached chosen owner

/-! ## Runs -/

omit [DecidableEq Dev] in
/-- In order, a call comes in time. -/
theorem OrderInv.inTime (c : ModuleCall Dev) (before : OrderInv m) (called : ModuleCalls m c)
    (ordered : InOrder m c) : InTime m c := by
  cases c with
  | callback c =>
    cases c with
    | attach d answers =>
      intro enabled
      obtain ⟨inside, early⟩ := ordered enabled
      exact ⟨slot_of_counter inside, fun mounts => before.live (early mounts)⟩
    | detach d => exact ⟨ordered.1, before.live ordered.2⟩
  | unload => exact ⟨before.live called, before.held.unregistered ordered⟩

theorem OrderInv.kept (c : ModuleCall Dev) (before : OrderInv m) (called : ModuleCalls m c)
    (taken : moduleStep pci m c = some m') : OrderInv m' := by
  cases c with
  | callback c =>
    obtain ⟨core, stepped, rfl⟩ := Option.map_eq_some_iff.mp taken
    refine ⟨fun early => ?_, before.held.kept c called stepped⟩
    exact (classLive_of_step c stepped).mpr (before.live early)
  | unload =>
    obtain rfl := Option.some.inj taken
    exact ⟨fun early => absurd early (by simp), before.held.bound, before.held.cdevs⟩

omit [DecidableEq Dev] in
theorem OrderInv.start (made : load.allocChrdev = .ok → load.classCreate ≠ .errPtr)
    (loaded : moduleLoad load World.boot = (0, world)) : OrderInv (ModuleState.start world) := by
  have live : classLive world := classLive_loaded loaded (made (load_classed loaded).1)
  obtain ⟨_, _, rfl⟩ := load_classed loaded
  refine ⟨fun _ => live, Finset.empty_subset _, ?_⟩
  intro slot
  change (((World.boot : World Dev).classed load).kernel.cdevs slot).length ≤ _
  rw [(classed_quiet Dev load).2.1]
  exact Nat.zero_le _

/-- In the PCI core's runs around one `module_unload`: where `class_create` has made a class and
the calls come in order, every call has an outcome, no class is used that is not there, and no
cdev is added or left in a range given back. -/
theorem runSound_of_inOrder {calls : List (ModuleCall Dev)}
    (called : ∀ world, moduleLoad load World.boot = (0, world) →
      Each (moduleStep pci) ModuleCalls (.start world) calls)
    (ordered : RunInOrder pci load calls) : RunSound pci load calls := by
  obtain ⟨made, each⟩ := ordered
  refine (runSound_iff_inTime load calls).mpr
    ⟨fun granted isErr => absurd isErr (made granted), fun world loaded => ?_⟩
  refine each_of_guarded (fun m c m' before both taken => ?_) (fun m c before both => ?_)
    (OrderInv.start made loaded) ((each_and _ calls).mpr ⟨called world loaded, each world loaded⟩)
  · exact before.kept c both.1 taken
  · exact before.inTime c both.1 both.2

/-- Two cards come and go before the module is unloaded. -/
def unloadedEmpty : List (ModuleCall Nat) :=
  [.callback (.attach 0 (sampleAnswers 0)), .callback (.attach 1 (sampleAnswers 1)),
    .callback (.detach 0), .callback (.detach 1), .unload]

theorem runSound_unloaded_empty : RunSound (fun _ => sampleCard 8192) sampleLoad unloadedEmpty := by
  refine runSound_of_inOrder (fun world loaded => ?_) ⟨by decide, fun world loaded => ?_⟩
  · obtain rfl := (Prod.mk.inj loaded).2
    decide +kernel
  · obtain rfl := (Prod.mk.inj loaded).2
    decide +kernel

/-- A device attached when `module_unload` starts: its cdev stays registered in a range
given back, and its detach uses the destroyed class. -/
theorem unload_before_detach :
    ¬ ∀ (load : LoadAnswers) (calls : List (ModuleCall Nat)),
      (∀ world, moduleLoad load World.boot = (0, world) →
        Each (moduleStep fun _ => sampleCard 8192) ModuleCalls (.start world) calls) →
      RunSound (fun _ => sampleCard 8192) load calls := by
  intro claim
  obtain ⟨_, calls⟩ := claim sampleLoad
    [.callback (.attach 0 (sampleAnswers 0)), .unload, .callback (.detach 0)]
    (fun world loaded => by
      obtain rfl := (Prod.mk.inj loaded).2
      decide +kernel)
  obtain ⟨_, later⟩ := calls _ rfl
  let slot : ContextPtr := ⟨0, by decide⟩
  obtain ⟨m, attached, tables⟩ := Option.map_eq_some_iff.mp
    (show (moduleStep (fun _ => sampleCard 8192)
        (.start (moduleLoad sampleLoad World.boot).2) (.callback (.attach 0 (sampleAnswers 0)))).map
        (fun m => ((moduleUnload m.core.world).kernel.cdevs slot,
          (moduleUnload m.core.world).kernel.chrdevs)) = some ([⟨⟨250, 0⟩, 0⟩], []) by
      decide +kernel)
  obtain ⟨unloaded, taken, sound⟩ := (later m attached).1
  obtain rfl := Option.some.inj taken
  obtain ⟨cdevs, chrdevs⟩ := Prod.mk.inj tables
  have left := sound.cdevs slot ⟨⟨250, 0⟩, 0⟩ (by
    change _ ∈ (moduleUnload m.core.world).kernel.cdevs slot
    rw [cdevs]
    exact List.mem_singleton_self _)
  change _ ∈ (moduleUnload m.core.world).kernel.chrdevs at left
  rw [chrdevs] at left
  exact absurd left (by simp)

end LddLearn.Pcidev02
