import LddLearn.Pcidev02.Mounting

/-!
# Where the workers of attached devices point

`mount_chr_dev` computes the worker pointers from the buffers of the context,
which `hold_pci_resources` sets only when `ioremap` succeeds; otherwise they are
what the slot's previous device left, or NULL. And a device whose attach was turned
back is detached all the same, through a context whose base address may be that of
another device's mapping. `MapsWorkers` describes the callbacks after which every
attached device's pointers are inside its own mapping: attaches onto a free slot
which, where they succeed, get a mapping of `workersSpan` bytes or more, and
detaches that unmap nothing but the mapping of the device they are for.
-/

set_option autoImplicit false

namespace LddLearn.Pcidev02
open LddLearn.Linux LddLearn.Ssxa LddLearn.Library.Run

/-! ## Property and condition -/

section Statements
variable {Dev : Type}

/-- Every attached device has all its workers inside the mapping made for it by its
last attach, which is still live. -/
def WorkersMapped (r : RunState Dev) : Prop :=
  ∀ e ∈ r.attached, ∃ slot m, r.world.kernel.drvdata e = some slot ∧ r.mapped e = some m ∧
    m.owner = e ∧ m ∈ r.world.kernel.mappings ∧ WorkersIn m (r.world.driverContexts slot).workers

/-- An attach past `pci_enable_device` picks a slot of the array that no other attached
device has; where regions and cdev are granted, the device's memory BAR holds every
worker's words and `ioremap` maps it. A detach finds the class live, and that of a device
that is not attached finds a context whose base address is no attached device's mapping. -/
def MapsWorkers (pci : Dev → PciDev) (r : RunState Dev) : Callback Dev → Prop
  | .attach d answers => answers.enable = .ok →
    ∃ slot : ContextPtr, r.world.devAttachCounter = slot.val ∧
      (∀ e ∈ r.attached, e ≠ d → r.world.kernel.drvdata e ≠ some slot) ∧
      (answers.hold.regions = .ok → answers.cdevAdd = .ok →
        let size := memBarSize (pci d) (r.world.driverContexts slot).devResource.memSize
        workersSpan ≤ size.toNat ∧ r.world.kernel.FreshRange answers.hold.ioremap size)
  | .detach d => classLive r.world ∧ (d ∉ r.attached →
    ∃ slot, r.world.kernel.drvdata d = some slot ∧
      ∀ e ∈ r.attached, ∀ m ∈ r.mapped e, m.addr ≠ (r.world.driverContexts slot).baseAddr.addr)

instance [DecidableEq Dev] (pci : Dev → PciDev) (r : RunState Dev) :
    ∀ c : Callback Dev, Decidable (MapsWorkers pci r c)
  | .attach d answers =>
    inferInstanceAs (Decidable (answers.enable = .ok →
      ∃ slot : ContextPtr, r.world.devAttachCounter = slot.val ∧
        (∀ e ∈ r.attached, e ≠ d → r.world.kernel.drvdata e ≠ some slot) ∧
        (answers.hold.regions = .ok → answers.cdevAdd = .ok →
          workersSpan ≤
            (memBarSize (pci d) (r.world.driverContexts slot).devResource.memSize).toNat ∧
          r.world.kernel.FreshRange answers.hold.ioremap
            (memBarSize (pci d) (r.world.driverContexts slot).devResource.memSize))))
  | .detach d =>
    inferInstanceAs (Decidable (classLive r.world ∧ (d ∉ r.attached →
      ∃ slot, r.world.kernel.drvdata d = some slot ∧
        ∀ e ∈ r.attached, ∀ m ∈ r.mapped e,
          m.addr ≠ (r.world.driverContexts slot).baseAddr.addr)))

/-- The mapping of an attached device is live, found at its context's base address. -/
structure WorksIn (r : RunState Dev) (e : Dev) (slot : ContextPtr) (m : Mapping Dev) : Prop where
  drvdata : r.world.kernel.drvdata e = some slot
  pciDev : (r.world.driverContexts slot).pciDev = some e
  mapped : r.mapped e = some m
  owner : m.owner = e
  live : r.world.kernel.mappingAt (r.world.driverContexts slot).baseAddr.addr = some m
  inside : WorkersIn m (r.world.driverContexts slot).workers

structure WorkersInv (r : RunState Dev) : Prop where
  counter_le : r.world.devAttachCounter ≤ MAX_DEVICE
  used : DrvdataUsed r.world
  works : ∀ e ∈ r.attached, ∃ slot m, WorksIn r e slot m

theorem WorkersInv.workersMapped {r : RunState Dev} (invariant : WorkersInv r) :
    WorkersMapped r := by
  intro e attached
  obtain ⟨slot, m, works⟩ := invariant.works e attached
  exact ⟨slot, m, works.drvdata, works.mapped, works.owner,
    (Kernel.addr_of_mappingAt works.live).1, works.inside⟩

end Statements

variable {Dev : Type} [DecidableEq Dev] {pci : Dev → PciDev} {answers : AttachAnswers}
  {r : RunState Dev} {d e : Dev} {slot used : ContextPtr} {m : Mapping Dev}

/-! ## Attach -/

/-- Another device keeps its mapping when the lookup at its base address is kept. -/
theorem WorksIn.attach_other {ret : Int} {after : World Dev} (works : WorksIn r e used m)
    (effect : PastEnable slot d r.world ret after) (different : e ≠ d) (apart : used ≠ slot)
    (kept : after.kernel.mappingAt m.addr = r.world.kernel.mappingAt m.addr) :
    WorksIn (r.afterAttach d ret after) e used m := by
  have base : (r.world.driverContexts used).baseAddr.addr = m.addr :=
    (Kernel.addr_of_mappingAt works.live).2.symm
  have context : (r.afterAttach d ret after).world.driverContexts used =
      r.world.driverContexts used := effect.others used apart
  refine ⟨?_, ?_, ?_, works.owner, ?_, ?_⟩
  · change after.kernel.drvdata e = some used
    rw [effect.drvdata, Function.update_of_ne different, works.drvdata]
  · rw [context, works.pciDev]
  · exact (Function.update_of_ne different _ _).trans works.mapped
  · rw [context, base]
    exact kept.trans (base ▸ works.live)
  · rw [context]
    exact works.inside

/-- The device attached works in the mapping just made. -/
theorem WorksIn.attach_self {after : World Dev} (effect : PastEnable slot d r.world 1 after)
    (made : AttachedWith pci answers slot d r.world after m)
    (span : workersSpan ≤ m.size.toNat) : WorksIn (r.afterAttach d 1 after) d slot m := by
  obtain ⟨wBuffer, sBuffer, workers, requests, tags⟩ := made.workers
  refine ⟨?_, effect.pciDev, ?_, made.owner, ?_, ?_⟩
  · change after.kernel.drvdata d = some slot
    rw [effect.drvdata, Function.update_self]
  · exact (Function.update_self ..).trans made.fresh
  · change after.kernel.mappingAt (after.driverContexts slot).baseAddr.addr = some m
    rw [made.base, Kernel.mappingAt, made.mappings]
    simp
  · change WorkersIn m (after.driverContexts slot).workers
    rw [workers]
    exact initWorkers_inside m span requests tags

/-- The devices attached before keep their mappings when the lookups do. -/
theorem WorkersInv.attach_others {ret : Int} {after : World Dev} (before : WorkersInv r)
    (effect : PastEnable slot d r.world ret after)
    (free : ∀ e ∈ r.attached, e ≠ d → r.world.kernel.drvdata e ≠ some slot)
    (kept : ∀ held ∈ r.world.kernel.mappings,
      after.kernel.mappingAt held.addr = r.world.kernel.mappingAt held.addr)
    (member : e ∈ r.attached) (different : e ≠ d) :
    ∃ used held, WorksIn (r.afterAttach d ret after) e used held := by
  obtain ⟨used, held, works⟩ := before.works e member
  have apart : used ≠ slot := fun reused => free e member different (reused ▸ works.drvdata)
  have live := (Kernel.addr_of_mappingAt works.live).1
  exact ⟨used, held, works.attach_other effect different apart (kept held live)⟩

/-- A new mapping shadows none that is live. -/
theorem mappingAt_made {after : World Dev} (made : AttachedWith pci answers slot d r.world after m)
    {size : ULong} (fresh : r.world.kernel.FreshRange answers.hold.ioremap size)
    {held : Mapping Dev} (live : held ∈ r.world.kernel.mappings) :
    after.kernel.mappingAt held.addr = r.world.kernel.mappingAt held.addr := by
  have elsewhere : m.addr ≠ held.addr := made.addr ▸ (fresh.addr_ne live).symm
  rw [Kernel.mappingAt, made.mappings, List.find?_cons_of_neg (by simpa using elsewhere)]
  rfl

theorem WorkersInv.attach_not_enabled (before : WorkersInv r) (d : Dev) :
    ∀ e ∈ (r.afterAttach d 0 r.world).attached,
      ∃ used held, WorksIn (r.afterAttach d 0 r.world) e used held := by
  intro e attached
  have left : e ∈ r.attached.erase d := attached
  obtain ⟨used, held, works⟩ := before.works e (Finset.mem_of_mem_erase left)
  exact ⟨used, held, works.drvdata, works.pciDev,
    (Function.update_of_ne (Finset.ne_of_mem_erase left) _ _).trans works.mapped, works.owner,
    works.live, works.inside⟩

theorem WorkersInv.attach_kept (before : WorkersInv r)
    (maps : MapsWorkers pci r (.attach d answers)) :
    Leads (step pci) WorkersInv r (.attach d answers) := by
  by_cases enabled : answers.enable = .ok
  · obtain ⟨slot, picked, free, mapping⟩ := maps enabled
    by_cases both : answers.hold.regions = .ok ∧ answers.cdevAdd = .ok
    · obtain ⟨span, fresh⟩ := mapping both.1 both.2
      obtain ⟨after, m, outcome, effect, made⟩ :=
        attach_mapped picked enabled both.1 both.2 fresh
      refine ⟨_, step_attach outcome, effect.counter_le picked, effect.drvdataUsed before.used, ?_⟩
      intro e attached
      by_cases same : e = d
      · subst same
        exact ⟨slot, m, .attach_self effect made (made.size ▸ span)⟩
      · exact before.attach_others effect free (fun held live => mappingAt_made made fresh live)
          ((mem_attached_afterAttach same).mp attached) same
    · obtain ⟨after, outcome, effect, mappings⟩ :=
        attach_failed_mappings (d := d) (w := r.world) picked enabled (not_and_or.mp both)
      refine ⟨_, step_attach outcome, effect.counter_le picked, effect.drvdataUsed before.used, ?_⟩
      intro e attached
      have left : e ∈ r.attached.erase d := attached
      exact before.attach_others effect free (fun _ _ => congrArg (List.find? _) mappings)
        (Finset.mem_of_mem_erase left) (Finset.ne_of_mem_erase left)
  · have outcome := Pcidev02.attach_not_enabled pci d before.counter_le enabled
    exact ⟨_, step_attach outcome, before.counter_le, before.used, before.attach_not_enabled d⟩

/-! ## Detach -/

/-- A device that stays keeps its mapping, at whatever other address the detach unmaps. -/
theorem WorksIn.detach_other (works : WorksIn r e used m) (owner : Dev)
    (elsewhere : m.addr ≠ (r.world.driverContexts slot).baseAddr.addr) :
    WorksIn (r.afterDetach d (r.world.detached pci owner slot)) e used m := by
  have base : (r.world.driverContexts used).baseAddr.addr = m.addr :=
    (Kernel.addr_of_mappingAt works.live).2.symm
  exact ⟨works.drvdata, works.pciDev, works.mapped, works.owner,
    (Kernel.mappingAt_iounmap_other _ (base ▸ elsewhere)).trans works.live, works.inside⟩

/-- The context of a device that is detached, and that no other attached device has its mapping
there. -/
theorem WorkersInv.leaving (before : WorkersInv r) (maps : MapsWorkers pci r (.detach d)) :
    ∃ slot, r.world.kernel.drvdata d = some slot ∧ ∀ e used m, e ≠ d → e ∈ r.attached →
      WorksIn r e used m → m.addr ≠ (r.world.driverContexts slot).baseAddr.addr := by
  by_cases attached : d ∈ r.attached
  · obtain ⟨slot, own, leaving⟩ := before.works d attached
    refine ⟨slot, leaving.drvdata, fun e used m different _ works same => different ?_⟩
    have found := works.live
    rw [(Kernel.addr_of_mappingAt works.live).2.symm.trans same, leaving.live] at found
    exact works.owner.symm.trans ((Option.some.inj found) ▸ leaving.owner)
  · obtain ⟨slot, chosen, apart⟩ := maps.2 attached
    exact ⟨slot, chosen, fun e used m _ stays works => apart e stays m works.mapped⟩

theorem WorkersInv.detach_kept (before : WorkersInv r) (maps : MapsWorkers pci r (.detach d)) :
    Leads (step pci) WorkersInv r (.detach d) := by
  obtain ⟨slot, chosen, apart⟩ := before.leaving maps
  obtain ⟨owner, used⟩ := before.used d slot chosen
  refine ⟨_, step_detach (detach_effect chosen used), detached_counter_le before.counter_le,
    before.used.detached pci owner slot, ?_⟩
  intro e stays
  have different : e ≠ d := Finset.ne_of_mem_erase stays
  have attached := Finset.mem_of_mem_erase stays
  obtain ⟨used, held, works⟩ := before.works e attached
  exact ⟨used, held, works.detach_other owner (apart e used held different attached works)⟩

/-! ## Runs -/

omit [DecidableEq Dev] in
theorem WorkersInv.start {load : LoadAnswers} {world : World Dev}
    (loaded : moduleLoad load World.boot = (0, world)) : WorkersInv (RunState.start world) where
  counter_le := (Bounded.start loaded).counter_le
  used := drvdataUsed_of_loaded loaded
  works := fun e attached => by simp [RunState.start] at attached

theorem WorkersInv.kept (c : Callback Dev) (before : WorkersInv r) (maps : MapsWorkers pci r c) :
    Leads (step pci) WorkersInv r c := by
  cases c with
  | attach d answers => exact before.attach_kept maps
  | detach d => exact before.detach_kept maps

/-- Whichever devices are attached and detached, and in whatever order: when every attach past
`pci_enable_device` picks a free slot and does not succeed without a large enough mapping, and
no detach of a device that was turned back takes an attached device's mapping, every callback
has an outcome and the workers of attached devices point into live mappings of their own in
every state reached. -/
theorem workers_mapped_of_maps_workers {load : LoadAnswers} {world : World Dev}
    {callbacks : List (Callback Dev)} (loaded : moduleLoad load World.boot = (0, world))
    (maps : Each (step pci) (MapsWorkers pci) (RunState.start world) callbacks) :
    Each (step pci) (Leads (step pci) WorkersMapped) (RunState.start world) callbacks := by
  have start : WorkersInv (RunState.start world) := .start loaded
  refine each_of_guarded (fun r c after before maps taken => ?_) (fun r c before maps => ?_) start maps
  · exact (WorkersInv.kept c before maps).reached taken
  · obtain ⟨after, taken, invariant⟩ := WorkersInv.kept c before maps
    exact ⟨after, taken, invariant.workersMapped⟩

/-- Next to an attached card, a second one is refused its cdev and removed all the same. -/
def refusedSecond : List (Callback Nat) :=
  [.attach 0 (sampleAnswers 0), .attach 1 { sampleAnswers 1 with cdevAdd := .error 12 },
    .detach 1, .detach 0]

theorem workers_mapped_refused_second :
    Each (step fun _ => sampleCard 8192)
      (Leads (step fun _ => sampleCard 8192) WorkersMapped)
      (RunState.start (moduleLoad sampleLoad World.boot).2) refusedSecond :=
  workers_mapped_of_maps_workers (show moduleLoad sampleLoad World.boot = (0, _) from rfl)
    (by decide +kernel)

/-- `ioremap` answers NULL, `hold_pci_resources` reports success, and the device is
attached without a mapping. -/
theorem unmapped_attach_succeeds :
    ¬ ∀ (world : World Nat) (callbacks : List (Callback Nat)),
      moduleLoad sampleLoad World.boot = (0, world) →
      Each (step fun _ => sampleCard 8192) CoreCalls (RunState.start world) callbacks →
      Each (step fun _ => sampleCard 8192)
        (Leads (step fun _ => sampleCard 8192) WorkersMapped) (RunState.start world) callbacks := by
  intro claim
  have unmapped := claim _ [.attach 0 { sampleAnswers 0 with hold := ⟨.ok, 0⟩ }] rfl
    (by decide +kernel)
  obtain ⟨r, taken, mapped⟩ := unmapped.1
  obtain ⟨same, reached, facts⟩ := Option.map_eq_some_iff.mp
    (show (step (fun _ => sampleCard 8192) (RunState.start (moduleLoad sampleLoad World.boot).2)
        (.attach 0 { sampleAnswers 0 with hold := ⟨.ok, 0⟩ })).map
        (fun r => (decide (0 ∈ r.attached), r.mapped 0)) = some (true, none) by decide +kernel)
  obtain rfl : r = same := Option.some.inj (taken.symm.trans reached)
  obtain ⟨attached, noMapping⟩ := Prod.mk.inj facts
  obtain ⟨_, m, _, recorded, _⟩ := mapped 0 (of_decide_eq_true attached)
  rw [noMapping] at recorded
  exact absurd recorded (by simp)

end LddLearn.Pcidev02
