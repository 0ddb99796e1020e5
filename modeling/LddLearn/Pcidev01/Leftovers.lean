import LddLearn.Pcidev01.Reservations

/-!
# Regions that stay reserved

`pci_probe` reserves every implemented BAR and `pci_remove` gives back BAR 0 alone; neither
unloading nor another insertion gives back the rest. The kernel does not reserve a BAR twice,
so a device with a further BAR is accepted once and never again.
-/

set_option autoImplicit false

namespace LddLearn.Pcidev01
open LddLearn.Linux LddLearn.Library LddLearn.Library.Run

variable {Dev : Type}

/-- The run state, and how many probes of each device have returned 1. -/
structure Served (Dev : Type) where
  core : RunState Dev
  accepts : Dev → Nat

def Served.out : Served Dev := ⟨.out, fun _ => 0⟩

/-- `pci_request_regions` turns a device down whose BARs are not all free. -/
def HonestRegions (pci : Dev → PciDev) (s : Served Dev) : ModuleCall Dev → Prop
  | .callback (.probe d answers) => answers.regions = .ok →
    ∀ bar, ((pci d).bars bar).len ≠ 0 → s.core.world.kernel.regions d bar = none
  | _ => True

instance (pci : Dev → PciDev) (s : Served Dev) : ∀ c : ModuleCall Dev, Decidable (HonestRegions pci s c)
  | .callback (.probe d answers) => inferInstanceAs (Decidable (answers.regions = .ok →
      ∀ bar, ((pci d).bars bar).len ≠ 0 → s.core.world.kernel.regions d bar = none))
  | .callback (.remove _) => isTrue trivial
  | .callback (.unload _) => isTrue trivial
  | .load _ => isTrue trivial

/-- No BAR but BAR 0 of any device has changed hands. -/
def SameLeft (before after : Kernel Dev CdevPtr) : Prop :=
  ∀ d bar, bar ≠ SSA10A_BAR_IO → after.regions d bar = before.regions d bar

theorem SameLeft.of_regions {before after : Kernel Dev CdevPtr}
    (same : after.regions = before.regions) : SameLeft before after :=
  fun d bar _ => congrFun (congrFun same d) bar

theorem SameLeft.trans {first second third : Kernel Dev CdevPtr} (left : SameLeft first second)
    (right : SameLeft second third) : SameLeft first third :=
  fun d bar other => (right d bar other).trans (left d bar other)

variable [DecidableEq Dev] {pci : Dev → PciDev} {answers : ProbeAnswers} {load : LoadAnswers}
  {w after : World Dev} {d : Dev} {s t : Served Dev}

/-- The device whose probe returns 1. -/
def acceptedBy (pci : Dev → PciDev) (w : World Dev) : ModuleCall Dev → Option Dev
  | .callback (.probe d answers) =>
    match pciProbe pci answers w d with
    | .ok (ret, _) => if ret = 1 then some d else none
    | .error _ => none
  | _ => none

def servedStep (pci : Dev → PciDev) (s : Served Dev) (c : ModuleCall Dev) : Option (Served Dev) :=
  (moduleStep pci s.core c).map fun core =>
    match acceptedBy pci s.core.world c with
    | some d => ⟨core, Function.update s.accepts d (s.accepts d + 1)⟩
    | none => ⟨core, s.accepts⟩

/-! ## What each call does to the regions -/

theorem requestAndScan_regions {ret : Int} {cdev : CdevPtr}
    (outcome : requestAndScan pci answers w d cdev = (ret, after)) :
    ret = 1 ∧ answers.regions = .ok ∧ after.kernel.regions =
        (w.kernel.pciRequestRegions (pci d) d PCI_REGIONS_NAME .ok).2.regions ∨
      ret = 0 ∧ after.kernel.regions = w.kernel.regions := by
  have enabled : (w.kernel.pciEnableDevice d answers.enable).2.regions = w.kernel.regions := by
    cases answers.enable <;> rfl
  unfold requestAndScan at outcome
  cases request : answers.regions with
  | ok =>
    simp only [request, Kernel.pciRequestRegions, ne_eq, not_true_eq_false, if_false,
      Prod.mk.injEq] at outcome
    obtain ⟨rfl, rfl⟩ := outcome
    refine Or.inl ⟨rfl, rfl, ?_⟩
    simp only [Kernel.pciRequestRegions, enabled]
  | error errno =>
    have failed : (Answer.error errno).code ≠ 0 := by simp
    simp only [request, Kernel.pciRequestRegions, if_pos failed, Prod.mk.injEq] at outcome
    obtain ⟨rfl, rfl⟩ := outcome
    exact Or.inr ⟨rfl, enabled⟩

theorem probe_regions {ret : Int} (outcome : pciProbe pci answers w d = .ok (ret, after)) :
    ret = 1 ∧ answers.regions = .ok ∧ after.kernel.regions =
        (w.kernel.pciRequestRegions (pci d) d PCI_REGIONS_NAME .ok).2.regions ∨
      ret = 0 ∧ after.kernel.regions = w.kernel.regions := by
  unfold pciProbe at outcome
  dsimp only at outcome
  split at outcome
  · obtain ⟨rfl, rfl⟩ := Prod.mk.inj (Except.ok.inj outcome)
    exact Or.inr ⟨rfl, rfl⟩
  · rcases registerCdev_outcome outcome with ⟨rfl, rfl⟩ | ⟨linked, scanned⟩
    · exact Or.inr ⟨rfl, rfl⟩
    · have effect := requestAndScan_regions scanned
      exact effect

omit [DecidableEq Dev] in
theorem deleteCdev_regions (kernel : Kernel Dev CdevPtr) (found : Option CdevPtr) :
    (deleteCdev kernel found).regions = kernel.regions := by
  cases found with
  | none => rfl
  | some cdev => rfl

theorem remove_left (w : World Dev) (d : Dev) : SameLeft w.kernel (pciRemove w d).kernel := by
  intro e bar other
  have deleted := deleteCdev_regions w.kernel (pciCdevSearchCdev w.pciCdev (pciCdevSearchMinor w.pciCdev d))
  change Function.update (deleteCdev w.kernel _).regions d _ e bar = w.kernel.regions e bar
  rw [deleted]
  by_cases same : e = d
  · rw [same, Function.update_self, Function.update_of_ne other]
  · rw [Function.update_of_ne same]

theorem removes_left (devices : List Dev) (w : World Dev) :
    SameLeft w.kernel (devices.foldl pciRemove w).kernel := by
  induction devices generalizing w with
  | nil => exact SameLeft.of_regions rfl
  | cons d rest ih => exact (remove_left w d).trans (ih (pciRemove w d))

omit [DecidableEq Dev] in
theorem deleteLeft_regions (table : Table Dev) {before left : Kernel Dev CdevPtr}
    (outcome : deleteLeft before table = .ok left) : left.regions = before.regions := by
  induction table generalizing before with
  | nil => exact congrArg Kernel.regions (Except.ok.inj outcome).symm
  | cons pair rest ih =>
    unfold deleteLeft at outcome
    split at outcome
    · exact ih outcome
    · exact absurd outcome (by simp)
    · have later := ih outcome
      exact later

theorem unload_left {boundDevices : List Dev} (outcome : moduleUnload boundDevices w = .ok after) :
    SameLeft w.kernel after.kernel := by
  unfold moduleUnload at outcome
  dsimp only at outcome
  cases loop : deleteLeft (boundDevices.foldl pciRemove w).kernel
      (boundDevices.foldl pciRemove w).pciCdev with
  | error fault => simp [loop, Except.map] at outcome
  | ok kernel =>
    rw [loop] at outcome
    obtain rfl := Except.ok.inj outcome
    have regions := deleteLeft_regions _ loop
    exact (removes_left boundDevices w).trans (SameLeft.of_regions regions)

omit [DecidableEq Dev] in
theorem load_regions (load : LoadAnswers) (w : World Dev) :
    (moduleLoad load w).2.kernel.regions = w.kernel.regions := by
  by_cases granted : load.allocChrdev = .ok
  · rw [load_numbered granted]
    by_cases registered : load.registerDriver = .ok
    · rw [if_pos registered]
      rfl
    · rw [if_neg registered]
      rfl
  · rw [load_refused granted]

/-! ## Runs -/

/-- A device is accepted as often as a BAR of it, other than BAR 0, is reserved. -/
def LeftInv (pci : Dev → PciDev) (s : Served Dev) : Prop :=
  ∀ d bar, bar ≠ SSA10A_BAR_IO → ((pci d).bars bar).len ≠ 0 →
    s.accepts d = if s.core.world.kernel.regions d bar = none then 0 else 1

omit [DecidableEq Dev] in
theorem LeftInv.of_same (before : LeftInv pci s)
    (same : SameLeft s.core.world.kernel t.core.world.kernel) (accepts : t.accepts = s.accepts) :
    LeftInv pci t := by
  intro d bar other implemented
  rw [accepts, same d bar other]
  exact before d bar other implemented

theorem LeftInv.probe_kept (before : LeftInv pci s)
    (honest : HonestRegions pci s (.callback (.probe d answers)))
    (taken : servedStep pci s (.callback (.probe d answers)) = some t) : LeftInv pci t := by
  obtain ⟨core, stepped, rfl⟩ := Option.map_eq_some_iff.mp taken
  cases outcome : pciProbe pci answers s.core.world d with
  | error fault => simp [moduleStep, step, outcome] at stepped
  | ok result =>
    obtain ⟨ret, world⟩ := result
    simp only [moduleStep, step, outcome, Option.some.injEq] at stepped
    obtain rfl := stepped
    rcases probe_regions outcome with ⟨rfl, granted, regions⟩ | ⟨rfl, regions⟩
    · intro e bar other implemented
      simp only [acceptedBy, outcome, if_true, regions]
      by_cases same : e = d
      · subst same
        have free := honest granted bar implemented
        have reserved : (s.core.world.kernel.pciRequestRegions (pci e) e PCI_REGIONS_NAME
            .ok).2.regions e bar = some PCI_REGIONS_NAME := by
          simp only [Kernel.pciRequestRegions, Function.update_self, if_neg implemented]
        simp [reserved, before e bar other implemented, free]
      · simp [Kernel.pciRequestRegions, same, before e bar other implemented]
    · simp only [acceptedBy, outcome, Int.zero_ne_one, if_false]
      exact before.of_same (SameLeft.of_regions regions) rfl

theorem LeftInv.kept (c : ModuleCall Dev) (before : LeftInv pci s) (honest : HonestRegions pci s c)
    (taken : servedStep pci s c = some t) : LeftInv pci t := by
  cases c with
  | load load =>
    obtain ⟨core, stepped, rfl⟩ := Option.map_eq_some_iff.mp taken
    obtain rfl := Option.some.inj ((load_step load s.core).symm.trans stepped)
    exact before.of_same (SameLeft.of_regions (load_regions load _)) rfl
  | callback c =>
    cases c with
    | probe d answers => exact before.probe_kept honest taken
    | remove d =>
      obtain ⟨core, stepped, rfl⟩ := Option.map_eq_some_iff.mp taken
      obtain rfl := Option.some.inj stepped
      exact before.of_same (remove_left s.core.world d) rfl
    | unload boundDevices =>
      obtain ⟨core, stepped, rfl⟩ := Option.map_eq_some_iff.mp taken
      cases outcome : moduleUnload boundDevices s.core.world with
      | error fault => simp [moduleStep, step, outcome] at stepped
      | ok world =>
        simp only [moduleStep, step, outcome, Option.some.injEq] at stepped
        obtain rfl := stepped
        exact before.of_same (unload_left outcome) rfl

/-- Over any calls of the module and any number of insertions: a device with an implemented BAR
other than BAR 0 is accepted at most once, and its BAR stays reserved from then on. -/
theorem accepted_at_most_once {calls : List (ModuleCall Dev)}
    (honest : Each (servedStep pci) (HonestRegions pci) Served.out calls)
    (reached : run (servedStep pci) Served.out calls = some s) {bar : Fin 6}
    (other : bar ≠ SSA10A_BAR_IO) (implemented : ((pci d).bars bar).len ≠ 0) :
    s.accepts d ≤ 1 ∧ (s.accepts d = 1 ↔ s.core.world.kernel.regions d bar ≠ none) := by
  have start : LeftInv pci (Served.out : Served Dev) := fun _ _ _ _ => rfl
  have invariant : LeftInv pci s :=
    run_preserves_guarded (fun s c t before allowed taken => LeftInv.kept c before allowed taken)
      start honest reached
  rw [invariant d bar other implemented]
  split <;> simp_all

/-- A card is served, its module is unloaded and inserted again, and the card is turned down. -/
def insertedAgain : List (ModuleCall Nat) :=
  [.load sampleLoad, .callback (.probe 0 allGranted), .callback (.unload [0]), .load sampleLoad,
    .callback (.probe 0 { allGranted with regions := .error 16 })]

theorem accepted_at_most_once_inserted_again :
    ∃ s : Served Nat, run (servedStep fun _ => sampleCard) Served.out insertedAgain = some s ∧
      s.accepts 0 ≤ 1 ∧ (s.accepts 0 = 1 ↔ s.core.world.kernel.regions 0 1 ≠ none) := by
  obtain ⟨s, reached⟩ := Option.isSome_iff_exists.mp
    (show (run (servedStep fun _ : Nat => sampleCard) Served.out insertedAgain).isSome = true by
      decide +kernel)
  exact ⟨s, reached, accepted_at_most_once (by decide +kernel) reached (by decide) (by decide)⟩

end LddLearn.Pcidev01
