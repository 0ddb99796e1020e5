import LddLearn.Pcidev02.Mounting

/-!
# What attach takes and nobody gives back

`pci_disable_device` is commented out at the label that would undo `pci_enable_device`, and
`pci_driver_detach` has no call of it. So every attach that reaches a context leaves its
device enabled once more, refused or not, and no detach takes that back.
-/

set_option autoImplicit false

namespace LddLearn.Pcidev02
open LddLearn.Linux LddLearn.Ssxa LddLearn.Library.Run

/-! ## Properties and condition -/

section Statements
variable {Dev : Type}

/-- Everything an attach manages is as before. -/
structure Unchanged (before after : World Dev) : Prop where
  counter : after.devAttachCounter = before.devAttachCounter
  enabled : after.kernel.enableCount = before.kernel.enableCount
  drvdata : after.kernel.drvdata = before.kernel.drvdata
  regions : after.kernel.regions = before.kernel.regions
  mappings : after.kernel.mappings = before.kernel.mappings
  cdevs : after.kernel.cdevs = before.kernel.cdevs
  nodes : after.kernel.nodes = before.kernel.nodes

/-- The kernel holds for `d` what it held before. -/
structure SameFor (d : Dev) (before after : World Dev) : Prop where
  enabled : after.kernel.enableCount d = before.kernel.enableCount d
  regions : after.kernel.regions d = before.kernel.regions d
  mappings : ∀ m : Mapping Dev, m.owner = d →
    (m ∈ after.kernel.mappings ↔ m ∈ before.kernel.mappings)
  cdevs : ∀ slot registration, registration.owner = d →
    (registration ∈ after.kernel.cdevs slot ↔ registration ∈ before.kernel.cdevs slot)
  nodes : ∀ devno node, node.owner = d →
    (after.kernel.nodes devno = some node ↔ before.kernel.nodes devno = some node)

variable [DecidableEq Dev]

/-- An attach has an outcome, and where it reports "not handled" it has changed nothing. -/
def RefusalUndone (pci : Dev → PciDev) (r : RunState Dev) : Callback Dev → Prop
  | .attach d answers => ∃ ret after, pciDriverAttach pci answers r.world d = .ok (ret, after) ∧
      (ret = 0 → Unchanged r.world after)
  | .detach _ => True

/-- An attach that the guard lets through and whose device is enabled finds the counter in the
array and is granted its regions and its cdev. -/
def GrantsMount (r : RunState Dev) : Callback Dev → Prop
  | .attach _ answers => r.world.devAttachCounter ≤ MAX_DEVICE → answers.enable = .ok →
      (0 ≤ r.world.devAttachCounter ∧ r.world.devAttachCounter < MAX_DEVICE) ∧ answers.Mounts
  | .detach _ => True

/-- Between `attached`, the state an attach of `d` leaves of `before`, and `middle`, in which
`d` is detached, only other devices come and go: the detach gives back what the attach took,
and neither of them touches what another attached device has. -/
structure GivesBack (d : Dev) (before attached middle : RunState Dev) (after : World Dev) :
    Prop where
  own : SameFor d before.world after
  attachOthers : ∀ e ∈ before.attached, e ≠ d → SameFor e before.world attached.world
  detachOthers : ∀ e ∈ middle.attached, e ≠ d → SameFor e middle.world after

def Callback.device : Callback Dev → Dev
  | .attach d _ => d
  | .detach d => d

end Statements

variable {Dev : Type} [DecidableEq Dev] {pci : Dev → PciDev} {answers : AttachAnswers}
  {w after : World Dev} {d e : Dev} {slot : ContextPtr} {r r' : RunState Dev} {c : Callback Dev}

/-! ## Refused attaches -/

/-- Turned back past `pci_enable_device`, an attach has its counter, mappings, cdevs and nodes
in order again, and the device enabled. -/
theorem refused_attach_leaves (pci : Dev → PciDev) (d : Dev)
    (picked : w.devAttachCounter = slot.val) (enabled : answers.enable = .ok)
    (turned : ¬ answers.Mounts) :
    ∃ after, pciDriverAttach pci answers w d = .ok (0, after) ∧
      after.devAttachCounter = w.devAttachCounter ∧ after.kernel.mappings = w.kernel.mappings ∧
      after.kernel.cdevs = w.kernel.cdevs ∧ after.kernel.nodes = w.kernel.nodes ∧
      after.kernel.enableCount d = w.kernel.enableCount d + 1 := by
  obtain ⟨after, outcome, effect, same, _⟩ := attach_turned_back pci d picked enabled turned
  have refused : answers.hold.regions ≠ .ok ∨ answers.cdevAdd ≠ .ok := by
    by_contra granted
    push Not at granted
    exact turned granted
  obtain ⟨after', outcome', _, mappings⟩ : ∃ failed,
      pciDriverAttach pci answers w d = .ok (0, failed) ∧ PastEnable slot d w 0 failed ∧
        failed.kernel.mappings = w.kernel.mappings :=
    attach_failed_mappings picked enabled refused
  obtain ⟨_, rfl⟩ := Prod.mk.inj (Except.ok.inj (outcome'.symm.trans outcome))
  refine ⟨after', outcome, ?_, mappings, same.cdevs, same.nodes, ?_⟩
  · rcases effect.counter with ⟨_, restored⟩ | ⟨impossible, _⟩
    · exact restored
    · exact absurd impossible (by decide)
  · rw [effect.enableCount, Function.update_self]

theorem refusalUndone_iff (r : RunState Dev) (c : Callback Dev) :
    RefusalUndone pci r c ↔ GrantsMount r c := by
  cases c with
  | detach d => exact Iff.rfl
  | attach d answers =>
    by_cases passes : r.world.devAttachCounter ≤ MAX_DEVICE ∧ answers.enable = .ok
    · obtain ⟨room, enabled⟩ := passes
      constructor
      · rintro ⟨ret, after, reached, undone⟩ _ _
        obtain ⟨slot, picked⟩ := slot_of_outcome room enabled reached
        have := slot.isLt
        refine ⟨⟨by omega, by omega⟩, ?_⟩
        by_contra turned
        obtain ⟨after', outcome, _, _, _, _, count⟩ :=
          refused_attach_leaves pci d picked enabled turned
        obtain ⟨rfl, rfl⟩ := Prod.mk.inj (Except.ok.inj (outcome.symm.trans reached))
        have same := congrFun (undone rfl).enabled d
        omega
      · intro granted
        obtain ⟨inside, mounts⟩ := granted room enabled
        obtain ⟨slot, picked⟩ := slot_of_counter inside
        obtain ⟨after, outcome, _⟩ := attach_mounts pci d picked enabled mounts
        exact ⟨1, after, outcome, fun never => absurd never (by decide)⟩
    · refine iff_of_true ⟨0, r.world, attach_stopped pci d passes, fun _ => ?_⟩ ?_
      · exact ⟨rfl, rfl, rfl, rfl, rfl, rfl, rfl⟩
      · exact fun room enabled => absurd ⟨room, enabled⟩ passes

/-- Over any run, from any state: every attach has an outcome and, where it reports "not
handled", leaves everything as it found it, exactly when each attach past the guard and
`pci_enable_device` finds the counter in the array and is granted its regions and its cdev. -/
theorem refusals_undone_iff_granted (r : RunState Dev) (callbacks : List (Callback Dev)) :
    Each (step pci) (RefusalUndone pci) r callbacks ↔
      Each (step pci) GrantsMount r callbacks :=
  each_congr refusalUndone_iff r callbacks

/-- The card's regions are refused (EBUSY). -/
def regionsRefused : AttachAnswers :=
  { sampleAnswers 0 with hold := ⟨.error 15, 0⟩ }

/-- A card whose regions are refused has been enabled and stays so. -/
theorem enabled_after_refusal :
    ¬ ∀ (world : World Nat) (callbacks : List (Callback Nat)),
      moduleLoad sampleLoad World.boot = (0, world) →
      Each (step fun _ => sampleCard 8192) (RefusalUndone fun _ => sampleCard 8192)
        (RunState.start world) callbacks := by
  intro claim
  obtain ⟨⟨ret, after, outcome, undone⟩, _⟩ := claim _ [.attach 0 regionsRefused] rfl
  obtain ⟨rfl, rfl⟩ := Prod.mk.inj (Except.ok.inj outcome)
  have same := congrFun (undone rfl).enabled 0
  exact absurd same (by decide +kernel)

/-! ## Attach and detach of one device -/

/-- Where nothing fails, a detach at once takes back the mapping, the cdev, the node and the
regions, but not the enabling. -/
theorem detach_takes_back (pci : Dev → PciDev) (d : Dev) (picked : w.devAttachCounter = slot.val)
    (enabled : answers.enable = .ok) (mounts : answers.Mounts)
    (fresh : w.kernel.FreshRange answers.hold.ioremap
      (memBarSize (pci d) (w.driverContexts slot).devResource.memSize))
    (creates : w.kernel.CreatesNode w.devClass (w.devNo slot) answers.deviceCreate) :
    ∃ attached after, pciDriverAttach pci answers w d = .ok (1, attached) ∧
      pciDriverDetach pci attached d = .ok after ∧
      after.kernel.mappings = w.kernel.mappings ∧ after.kernel.cdevs = w.kernel.cdevs ∧
      after.kernel.nodes = w.kernel.nodes ∧ (∀ bar, after.kernel.regions d bar = none) ∧
      after.kernel.enableCount d = w.kernel.enableCount d + 1 := by
  obtain ⟨attached, m, outcome, effect, made⟩ : ∃ attached m,
      pciDriverAttach pci answers w d = .ok (1, attached) ∧ PastEnable slot d w 1 attached ∧
        AttachedWith pci answers slot d w attached m :=
    attach_mapped picked enabled mounts.1 mounts.2 fresh
  have chosen : attached.kernel.drvdata d = some slot := by
    rw [effect.drvdata, Function.update_self]
  have unmounted := detached_unmounted pci attached d slot
  refine ⟨attached, _, outcome, detach_effect chosen effect.pciDev, ?_, ?_, ?_, ?_, ?_⟩
  · change attached.kernel.mappings.filter (·.addr ≠ (attached.driverContexts slot).baseAddr.addr) = _
    rw [made.mappings, made.base]
    exact (made.addr ▸ fresh).unmap
  · rw [unmounted.cdevs, made.cdevs, Function.update_self, Function.update_idem, List.tail_cons,
      Function.update_eq_self]
  · rw [unmounted.nodes, effect.devNo, effect.devClass]
    exact Kernel.deviceDestroy_made (made.nodes creates) creates.2.2
  · exact congrFun (Function.update_self ..)
  · change attached.kernel.enableCount d = _
    rw [effect.enableCount, Function.update_self]

/-- `d` has a context that is in use, and has been enabled `count` times. -/
structure EnabledIn (slot : ContextPtr) (count : Nat) (d : Dev) (w : World Dev) : Prop where
  drvdata : w.kernel.drvdata d = some slot
  used : ∃ owner, (w.driverContexts slot).pciDev = some owner
  counted : w.kernel.enableCount d = count

variable {count : Nat}

theorem EnabledIn.attach_other {ret : Int} {picked : ContextPtr} (before : EnabledIn slot count d w)
    (different : e ≠ d) (counter : w.devAttachCounter = picked.val) (enabled : answers.enable = .ok)
    (outcome : pciDriverAttach pci answers w e = .ok (ret, after)) :
    EnabledIn slot count d after := by
  have effect := pastEnable_of_outcome counter enabled outcome
  refine ⟨?_, ?_, ?_⟩
  · rw [effect.drvdata, Function.update_of_ne (Ne.symm different)]
    exact before.drvdata
  · by_cases here : slot = picked
    · exact ⟨e, here ▸ effect.pciDev⟩
    · rw [effect.others slot here]
      exact before.used
  · rw [effect.enableCount, Function.update_of_ne (Ne.symm different)]
    exact before.counted

/-- Other devices' callbacks reach neither the device's context pointer nor its enable count. -/
theorem EnabledIn.step_other (c : Callback Dev) (before : EnabledIn slot count d r.world)
    (different : c.device ≠ d) (taken : step pci r c = some r') :
    EnabledIn slot count d r'.world := by
  cases c with
  | attach e answers =>
    rcases attach_reach pci answers r.world e with
      ⟨outcome, _⟩ | ⟨fault, outcome, _⟩ | ⟨picked, counter, enabled⟩
    · simp only [step, outcome, Option.some.injEq] at taken
      exact taken ▸ before
    · simp only [step, outcome, reduceCtorEq] at taken
    · obtain ⟨ret, after, outcome, _⟩ := attach_effect pci e counter enabled
      simp only [step, outcome, Option.some.injEq] at taken
      exact taken ▸ before.attach_other different counter enabled outcome
  | detach e =>
    obtain ⟨freed, owner, _, _, rfl⟩ := detach_of_step taken
    exact ⟨before.drvdata, before.used, before.counted⟩

theorem EnabledIn.run_others (callbacks : List (Callback Dev)) (before : EnabledIn slot count d r.world)
    (different : ∀ c ∈ callbacks, c.device ≠ d) (reached : run (step pci) r callbacks = some r') :
    EnabledIn slot count d r'.world := by
  induction callbacks generalizing r with
  | nil => exact Option.some.inj reached ▸ before
  | cons c rest ih =>
    obtain ⟨middle, taken, later⟩ := Option.bind_eq_some_iff.mp reached
    have first := before.step_other c (different c List.mem_cons_self) taken
    exact ih first (fun other member => different other (List.mem_cons_of_mem c member)) later

/-- A successful attach has reached a context and enabled the device. -/
theorem EnabledIn.attach_self (attached : pciDriverAttach pci answers w d = .ok (1, after)) :
    ∃ slot, EnabledIn slot (w.kernel.enableCount d + 1) d after := by
  rcases attach_reach pci answers w d with
    ⟨outcome, _⟩ | ⟨fault, outcome, _⟩ | ⟨slot, picked, enabled⟩
  · have codes := (Prod.mk.inj (Except.ok.inj (outcome.symm.trans attached))).1
    exact absurd codes (by decide)
  · cases outcome.symm.trans attached
  · have effect := pastEnable_of_outcome picked enabled attached
    refine ⟨slot, ?_, ⟨d, effect.pciDev⟩, ?_⟩
    · rw [effect.drvdata, Function.update_self]
    · rw [effect.enableCount, Function.update_self]

/-- From any state, whatever other devices do in between: the detach of a device attached
before always has an outcome, and never gives back all that the attach took, as the device
stays enabled once more than before. -/
theorem detach_never_gives_back {callbacks : List (Callback Dev)} {world : World Dev}
    {middle : RunState Dev} (attached : pciDriverAttach pci answers r.world d = .ok (1, world))
    (others : ∀ c ∈ callbacks, c.device ≠ d)
    (reached : run (step pci) (r.afterAttach d 1 world) callbacks = some middle) :
    ∃ after, pciDriverDetach pci middle.world d = .ok after ∧
      ¬ GivesBack d r (r.afterAttach d 1 world) middle after := by
  obtain ⟨slot, start⟩ := EnabledIn.attach_self attached
  have final := EnabledIn.run_others callbacks start others reached
  obtain ⟨owner, used⟩ := final.used
  refine ⟨_, detach_effect final.drvdata used, fun back => ?_⟩
  have same : middle.world.kernel.enableCount d = r.world.kernel.enableCount d := back.own.enabled
  have counted := final.counted
  omega

theorem detach_never_gives_back_boot :
    ∃ world middle after,
      run (step fun _ => sampleCard 8192)
        ((RunState.start (moduleLoad sampleLoad World.boot).2).afterAttach 0 1 world)
        [.attach 1 (sampleAnswers 1)] = some middle ∧
      pciDriverDetach (fun _ => sampleCard 8192) middle.world (0 : Nat) = .ok after ∧
      ¬ GivesBack 0 (RunState.start (moduleLoad sampleLoad World.boot).2)
        ((RunState.start (moduleLoad sampleLoad World.boot).2).afterAttach 0 1 world) middle
        after := by
  obtain ⟨world, attached, middle, reached⟩ : ∃ world,
      pciDriverAttach (fun _ => sampleCard 8192) (sampleAnswers 0)
        (RunState.start (moduleLoad sampleLoad World.boot).2).world (0 : Nat) = .ok (1, world) ∧
      ∃ middle, run (step fun _ => sampleCard 8192)
        ((RunState.start (moduleLoad sampleLoad World.boot).2).afterAttach 0 1 world)
        [.attach 1 (sampleAnswers 1)] = some middle := ⟨_, rfl, _, rfl⟩
  obtain ⟨after, outcome, lost⟩ := detach_never_gives_back attached (by decide) reached
  exact ⟨world, middle, after, reached, outcome, lost⟩

/-- Attached and detached at once, with everything granted, a card is enabled in the end. -/
theorem enabled_after_detach :
    ¬ ∀ (before : World Nat) (world after : World Nat),
      moduleLoad sampleLoad World.boot = (0, before) →
      pciDriverAttach (fun _ => sampleCard 8192) (sampleAnswers 0) before 0 = .ok (1, world) →
      pciDriverDetach (fun _ => sampleCard 8192) world 0 = .ok after →
      GivesBack 0 (RunState.start before) ((RunState.start before).afterAttach 0 1 world)
        ((RunState.start before).afterAttach 0 1 world) after := by
  intro claim
  have same := (claim _ _ _ rfl rfl rfl).own.enabled
  exact absurd same (by decide +kernel)

end LddLearn.Pcidev02
