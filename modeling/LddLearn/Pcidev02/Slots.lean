import LddLearn.Pcidev02.Runs

/-!
# Which slot an attach picks

`driver_contexts` is indexed by `dev_attach_counter - 1`, and detach only
decrements the counter. Two things follow, each decided exactly. The index leaves
the array as soon as an attach gets past `pci_enable_device` with the counter at
`MAX_DEVICE` (the guard compares with `>`) or below 0, where the detach of a device
that was turned back has taken it. And two attached devices come to share a
context as soon as one picks a slot another still has.
-/

set_option autoImplicit false

namespace LddLearn.Pcidev02
open LddLearn.Linux LddLearn.Ssxa LddLearn.Library.Run

/-! ## Properties and conditions -/

section Statements
variable {Dev : Type}

/-- The index attach hands to `driver_contexts`, after its increment. -/
def attachIndex (w : World Dev) : Int := w.devAttachCounter + 1 - 1

/-- An attach has a defined outcome; past `pci_enable_device` its index lies in
the array; and with `MAX_DEVICE` devices attached it is rejected and changes
nothing. -/
def AttachSafe [DecidableEq Dev] (pci : Dev → PciDev) (r : RunState Dev) : Callback Dev → Prop
  | .attach d answers =>
    (∃ ret after, pciDriverAttach pci answers r.world d = .ok (ret, after)) ∧
    (r.world.devAttachCounter ≤ MAX_DEVICE → answers.enable = .ok →
      0 ≤ attachIndex r.world ∧ attachIndex r.world ≤ MAX_DEVICE - 1) ∧
    (r.attached.card = MAX_DEVICE → pciDriverAttach pci answers r.world d = .ok (0, r.world))
  | .detach _ => True

/-- An attach that gets past `pci_enable_device` finds the counter in the array, and fewer
than `MAX_DEVICE` devices attached. -/
def StaysInside (r : RunState Dev) : Callback Dev → Prop
  | .attach _ answers => answers.enable = .ok →
    (0 ≤ r.world.devAttachCounter ∧ r.world.devAttachCounter < MAX_DEVICE) ∧
      r.attached.card < MAX_DEVICE
  | .detach _ => True

instance (r : RunState Dev) : ∀ c : Callback Dev, Decidable (StaysInside r c)
  | .attach _ answers => inferInstanceAs (Decidable (answers.enable = .ok →
    (0 ≤ r.world.devAttachCounter ∧ r.world.devAttachCounter < MAX_DEVICE) ∧
      r.attached.card < MAX_DEVICE))
  | .detach _ => isTrue trivial

/-- An attach that finds the counter at `MAX_DEVICE` does not get past
`pci_enable_device`. -/
def StopsWhenFull (r : RunState Dev) : Callback Dev → Prop
  | .attach _ answers => r.world.devAttachCounter = MAX_DEVICE → answers.enable ≠ .ok
  | .detach _ => True

/-- Every attached device's drvdata is a context whose `pci_dev` is that device,
and two of them have different contexts with different minors. -/
structure SlotsOwned (r : RunState Dev) : Prop where
  owned : ∀ e ∈ r.attached, ∃ slot, r.world.kernel.drvdata e = some slot ∧
    (r.world.driverContexts slot).pciDev = some e
  apart : ∀ e ∈ r.attached, ∀ f ∈ r.attached, e ≠ f →
    ∀ s t, r.world.kernel.drvdata e = some s → r.world.kernel.drvdata f = some t →
      s ≠ t ∧ (r.world.driverContexts s).minor ≠ (r.world.driverContexts t).minor

/-- An attach that gets past `pci_enable_device` finds the counter below
`MAX_DEVICE`, and no other attached device has the context it picks. -/
def PicksFreeSlot (r : RunState Dev) : Callback Dev → Prop
  | .attach d answers => answers.enable = .ok →
    r.world.devAttachCounter < MAX_DEVICE ∧
      ∀ e ∈ r.attached, e ≠ d → ∀ slot, r.world.kernel.drvdata e = some slot →
        (slot.val : Int) ≠ r.world.devAttachCounter
  | .detach _ => True

/-- Neither the counter nor the number of attached devices has passed `MAX_DEVICE`. -/
structure Bounded (r : RunState Dev) : Prop where
  counter_le : r.world.devAttachCounter ≤ MAX_DEVICE
  attached_le : r.attached.card ≤ MAX_DEVICE

/-- The counter never falls behind the attached devices, and each of them still
has a context some device was given. -/
structure CounterInv (r : RunState Dev) : Prop where
  attached_le : (r.attached.card : Int) ≤ r.world.devAttachCounter
  counter_le : r.world.devAttachCounter ≤ MAX_DEVICE
  in_use : ∀ e ∈ r.attached, ∃ slot owner, r.world.kernel.drvdata e = some slot ∧
    (r.world.driverContexts slot).pciDev = some owner

/-- The counter's invariant, minors apart, and each attached device's context
its own. -/
structure SlotInv (r : RunState Dev) : Prop where
  counter : CounterInv r
  minors : ∀ s t, (r.world.driverContexts s).minor = (r.world.driverContexts t).minor → s = t
  owned : ∀ e ∈ r.attached, ∃ slot, r.world.kernel.drvdata e = some slot ∧
    (r.world.driverContexts slot).pciDev = some e

variable {r : RunState Dev}

theorem CounterInv.nonneg (invariant : CounterInv r) : 0 ≤ r.world.devAttachCounter := by
  have := invariant.attached_le
  omega

theorem Bounded.start {load : LoadAnswers} {world : World Dev}
    (loaded : moduleLoad load World.boot = (0, world)) : Bounded (RunState.start world) where
  counter_le := by
    change world.devAttachCounter ≤ MAX_DEVICE
    rw [(load_success loaded).1]
    decide
  attached_le := Nat.zero_le _

theorem CounterInv.start {world : World Dev} (counter : world.devAttachCounter = 0) :
    CounterInv (RunState.start world) where
  attached_le := by
    change ((0 : Nat) : Int) ≤ world.devAttachCounter
    omega
  counter_le := by
    change world.devAttachCounter ≤ MAX_DEVICE
    rw [counter]
    decide
  in_use := fun e member => by simp [RunState.start] at member

theorem SlotInv.start {world : World Dev} (counter : world.devAttachCounter = 0)
    (contexts : world.driverContexts = initDriverContexts 0 MAX_DEVICE) :
    SlotInv (RunState.start world) where
  counter := .start counter
  minors := by
    intro s t same
    change (world.driverContexts s).minor = (world.driverContexts t).minor at same
    rw [contexts] at same
    exact initDriverContexts_minor_inj 0 MAX_DEVICE s t same
  owned := fun e member => by simp [RunState.start] at member

/-- Two devices with one context would both be its `pci_dev`. -/
theorem SlotInv.slotsOwned (invariant : SlotInv r) : SlotsOwned r where
  owned := invariant.owned
  apart := by
    intro e he f hf different s t chosenE chosenF
    have distinct : s ≠ t := by
      intro same
      subst same
      obtain ⟨u, chosenU, ownerE⟩ := invariant.owned e he
      obtain ⟨v, chosenV, ownerF⟩ := invariant.owned f hf
      obtain rfl : s = u := Option.some.inj (chosenE.symm.trans chosenU)
      obtain rfl : s = v := Option.some.inj (chosenF.symm.trans chosenV)
      exact different (Option.some.inj (ownerE.symm.trans ownerF))
    exact ⟨distinct, fun same => distinct (invariant.minors s t same)⟩

theorem PicksFreeSlot.stopsWhenFull {c : Callback Dev} (free : PicksFreeSlot r c) :
    StopsWhenFull r c := by
  cases c with
  | detach d => trivial
  | attach d answers =>
    intro full granted
    have := (free granted).1
    omega

end Statements

variable {Dev : Type} [DecidableEq Dev] {pci : Dev → PciDev} {answers : AttachAnswers}
  {r r' : RunState Dev} {d : Dev}

/-! ## The counter -/

theorem mem_attached_afterAttach {ret : Int} {after : World Dev} {e : Dev} (different : e ≠ d) :
    e ∈ (r.afterAttach d ret after).attached ↔ e ∈ r.attached := by
  unfold RunState.afterAttach
  dsimp only
  split <;> simp [different]

/-- With the counter in range an attach either stops at `pci_enable_device` or
reaches the context the counter picks. -/
theorem CounterInv.attach_cases (pci : Dev → PciDev) (before : CounterInv r)
    (allowed : StopsWhenFull r (.attach d answers)) :
    answers.enable ≠ .ok ∧
      step pci r (.attach d answers) = some (r.afterAttach d 0 r.world) ∨
    answers.enable = .ok ∧ ∃ slot ret after, r.world.devAttachCounter = slot.val ∧
      step pci r (.attach d answers) = some (r.afterAttach d ret after) ∧
      PastEnable slot d r.world ret after := by
  by_cases granted : answers.enable = .ok
  · have notFull : r.world.devAttachCounter ≠ MAX_DEVICE := fun full => allowed full granted
    have inside : r.world.devAttachCounter < MAX_DEVICE := lt_of_le_of_ne before.counter_le notFull
    obtain ⟨slot, picked⟩ := slot_of_counter ⟨before.nonneg, inside⟩
    obtain ⟨ret, after, outcome, effect⟩ := attach_effect pci d picked granted
    exact Or.inr ⟨granted, slot, ret, after, picked, step_attach outcome, effect⟩
  · exact Or.inl ⟨granted, step_attach (attach_not_enabled pci d before.counter_le granted)⟩

theorem attached_le_afterAttach {ret : Int} {after : World Dev}
    (counter : ret = 0 ∧ after.devAttachCounter = r.world.devAttachCounter ∨
      ret = 1 ∧ after.devAttachCounter = r.world.devAttachCounter + 1)
    (before : (r.attached.card : Int) ≤ r.world.devAttachCounter) :
    ((r.afterAttach d ret after).attached.card : Int) ≤ after.devAttachCounter := by
  rcases counter with ⟨failed, same⟩ | ⟨succeeded, next⟩
  · have fewer : (r.attached.erase d).card ≤ r.attached.card := Finset.card_erase_le
    simp only [RunState.afterAttach, failed, Int.zero_ne_one, if_false]
    omega
  · have oneMore := Finset.card_insert_le d r.attached
    simp only [RunState.afterAttach, succeeded, if_true]
    omega

theorem CounterInv.attach_kept (before : CounterInv r)
    (allowed : StopsWhenFull r (.attach d answers)) :
    Leads (step pci) CounterInv r (.attach d answers) := by
  rcases before.attach_cases pci allowed with
    ⟨_, taken⟩ | ⟨granted, slot, ret, after, picked, taken, effect⟩
  · refine ⟨_, taken, attached_le_afterAttach (Or.inl ⟨rfl, rfl⟩) before.attached_le,
      before.counter_le, ?_⟩
    intro e attached
    have fewer : e ∈ r.attached.erase d := attached
    exact before.in_use e (Finset.mem_of_mem_erase fewer)
  · refine ⟨_, taken, attached_le_afterAttach effect.counter before.attached_le,
      effect.counter_le picked, ?_⟩
    intro e attached
    change ∃ slot owner, after.kernel.drvdata e = some slot ∧ _
    rw [effect.drvdata]
    by_cases same : e = d
    · subst same
      exact ⟨slot, e, Function.update_self .., effect.pciDev⟩
    · rw [Function.update_of_ne same]
      obtain ⟨used, owner, chosen, inUse⟩ :=
        before.in_use e ((mem_attached_afterAttach same).mp attached)
      by_cases reused : used = slot
      · exact ⟨used, d, chosen, reused ▸ effect.pciDev⟩
      · refine ⟨used, owner, chosen, ?_⟩
        change (after.driverContexts used).pciDev = some owner
        rw [effect.others used reused]
        exact inUse

theorem CounterInv.detach_kept (pci : Dev → PciDev) (before : CounterInv r) (attached : d ∈ r.attached) :
    ∃ slot owner, step pci r (.detach d) = some (r.afterDetach d (r.world.detached pci owner slot)) ∧
      CounterInv (r.afterDetach d (r.world.detached pci owner slot)) := by
  obtain ⟨slot, owner, chosen, used⟩ := before.in_use d attached
  refine ⟨slot, owner, step_detach (detach_effect chosen used), ?_, ?_, ?_⟩
  · have fewer : (r.attached.erase d).card + 1 = r.attached.card :=
      Finset.card_erase_add_one attached
    have := before.attached_le
    change ((r.attached.erase d).card : Int) ≤ r.world.devAttachCounter - 1
    omega
  · exact detached_counter_le before.counter_le
  · intro e left
    exact before.in_use e (Finset.mem_of_mem_erase left)

/-! ## The index -/

/-- Past `pci_enable_device` a context is picked, or the index leaves the array. -/
theorem attachSafe_iff (c : Callback Dev) (before : Bounded r) :
    AttachSafe pci r c ↔ StaysInside r c := by
  cases c with
  | detach d => exact Iff.rfl
  | attach d answers =>
    by_cases enabled : answers.enable = .ok
    · constructor
      · rintro ⟨⟨ret, after, outcome⟩, _, rejects⟩ _
        obtain ⟨slot, picked⟩ := slot_of_outcome before.counter_le enabled outcome
        have := slot.isLt
        refine ⟨⟨by omega, by omega⟩, lt_of_le_of_ne before.attached_le fun full => ?_⟩
        -- rejected, the device would have been enabled all the same
        have effect := pastEnable_of_outcome picked enabled (rejects full)
        have counted := congrFun effect.enableCount d
        rw [Function.update_self] at counted
        omega
      · intro stays
        obtain ⟨inside, room⟩ := stays enabled
        obtain ⟨slot, picked⟩ := slot_of_counter inside
        obtain ⟨ret, after, outcome, _⟩ := attach_effect pci d picked enabled
        refine ⟨⟨ret, after, outcome⟩, fun _ _ => ?_, fun full => absurd full (Nat.ne_of_lt room)⟩
        unfold attachIndex
        omega
    · have outcome := attach_not_enabled pci d before.counter_le enabled
      exact iff_of_true ⟨⟨_, _, outcome⟩, fun _ granted => absurd granted enabled, fun _ => outcome⟩
        fun granted => absurd granted enabled

theorem card_afterAttach_le (ret : Int) (after : World Dev) :
    (r.afterAttach d ret after).attached.card ≤ r.attached.card + 1 := by
  unfold RunState.afterAttach
  dsimp only
  split
  · exact Finset.card_insert_le d r.attached
  · exact Finset.card_erase_le.trans (Nat.le_succ _)

theorem Bounded.kept (c : Callback Dev) (before : Bounded r) (stays : StaysInside r c)
    (taken : step pci r c = some r') : Bounded r' := by
  cases c with
  | attach d answers =>
    obtain ⟨ret, after, outcome, rfl⟩ := attach_of_step taken
    by_cases enabled : answers.enable = .ok
    · obtain ⟨slot, picked⟩ := slot_of_outcome before.counter_le enabled outcome
      have effect := pastEnable_of_outcome picked enabled outcome
      have room := (stays enabled).2
      have more := card_afterAttach_le (r := r) (d := d) ret after
      exact ⟨effect.counter_le picked, by omega⟩
    · have refused := attach_not_enabled pci d before.counter_le enabled
      obtain ⟨rfl, rfl⟩ := Prod.mk.inj (Except.ok.inj (refused.symm.trans outcome))
      exact ⟨before.counter_le, Finset.card_erase_le.trans before.attached_le⟩
  | detach d =>
    obtain ⟨slot, owner, _, _, rfl⟩ := detach_of_step taken
    exact ⟨detached_counter_le before.counter_le, Finset.card_erase_le.trans before.attached_le⟩

/-- Whichever devices are attached and detached, and in whatever order: attach stays inside
`driver_contexts` and rejects a device too many exactly when every attach that gets past
`pci_enable_device` finds the counter in the array and fewer than `MAX_DEVICE` devices
attached. -/
theorem attach_safe_iff_stays_inside {load : LoadAnswers} {world : World Dev}
    {callbacks : List (Callback Dev)} (loaded : moduleLoad load World.boot = (0, world)) :
    Each (step pci) (AttachSafe pci) (RunState.start world) callbacks ↔
      Each (step pci) StaysInside (RunState.start world) callbacks := by
  have start : Bounded (RunState.start world) := .start loaded
  refine each_iff_each (fun r c before _ => ?_) ?_ start (each_trivial _ callbacks)
  · exact attachSafe_iff c before
  · intro r c r' before _ stays taken
    exact before.kept c stays taken

/-- Eight devices attached one after another. -/
def eightAttaches : List (Callback Nat) :=
  (List.range 8).map fun n => .attach n (sampleAnswers n)

theorem attach_safe_iff_eight_attaches :
    Each (step fun _ => sampleCard 8192) (AttachSafe fun _ => sampleCard 8192)
        (RunState.start (moduleLoad sampleLoad World.boot).2) eightAttaches ↔
      Each (step fun _ => sampleCard 8192) StaysInside
        (RunState.start (moduleLoad sampleLoad World.boot).2) eightAttaches :=
  attach_safe_iff_stays_inside (show moduleLoad sampleLoad World.boot = (0, _) from rfl)

/-- The ninth attach gets past the guard and is given index 8. -/
theorem ninth_attach_leaves_array :
    ¬ ∀ (world : World Nat) (callbacks : List (Callback Nat)),
      moduleLoad sampleLoad World.boot = (0, world) →
      Each (step fun _ => sampleCard 8192) CoreCalls (RunState.start world) callbacks →
      Each (step fun _ => sampleCard 8192) (AttachSafe fun _ => sampleCard 8192)
        (RunState.start world) callbacks := by
  intro claim
  have safe := claim _ (eightAttaches ++ [.attach 8 (sampleAnswers 8)]) rfl
    (by decide +kernel)
  obtain ⟨_, last⟩ := (each_append _ _ _).mp safe
  obtain ⟨r, reached, counter⟩ := Option.map_eq_some_iff.mp
    (show (run (step fun _ => sampleCard 8192)
        (RunState.start (moduleLoad sampleLoad (World.boot : World Nat)).2) eightAttaches).map
        (fun r => r.world.devAttachCounter) = some 8 by decide +kernel)
  obtain ⟨⟨_, bounds, _⟩, _⟩ := last r reached
  have := bounds (by rw [counter]; decide) rfl
  rw [attachIndex, counter] at this
  exact absurd this.2 (by decide)

/-! ## Sharing -/

section
variable {slot : ContextPtr} {w after : World Dev} {ret : Int}

theorem PastEnable.minor_any (effect : PastEnable slot d w ret after) (any : ContextPtr) :
    (after.driverContexts any).minor = (w.driverContexts any).minor := by
  by_cases same : any = slot
  · rw [same]
    exact effect.minor
  · rw [effect.others any same]

theorem PastEnable.devNo (effect : PastEnable slot d w ret after) (any : ContextPtr) :
    after.devNo any = w.devNo any := by
  rw [World.devNo, World.devNo, effect.major, effect.minor_any]

theorem PastEnable.minors (effect : PastEnable slot d w ret after)
    (minors : ∀ s t, (w.driverContexts s).minor = (w.driverContexts t).minor → s = t) :
    ∀ s t, (after.driverContexts s).minor = (after.driverContexts t).minor → s = t := by
  intro s t same
  rw [effect.minor_any, effect.minor_any] at same
  exact minors s t same

end

theorem SlotInv.attach_kept (before : SlotInv r) (free : PicksFreeSlot r (.attach d answers)) :
    Leads (step pci) SlotInv r (.attach d answers) := by
  have counter : Leads (step pci) CounterInv r (.attach d answers) :=
    before.counter.attach_kept free.stopsWhenFull
  rcases before.counter.attach_cases pci free.stopsWhenFull with
    ⟨_, taken⟩ | ⟨granted, slot, ret, after, picked, taken, effect⟩
  · refine ⟨_, taken, counter.reached taken, before.minors, ?_⟩
    intro e attached
    have fewer : e ∈ r.attached.erase d := attached
    exact before.owned e (Finset.mem_of_mem_erase fewer)
  · refine ⟨_, taken, counter.reached taken, effect.minors before.minors, ?_⟩
    intro e attached
    change ∃ used, after.kernel.drvdata e = some used ∧ _
    rw [effect.drvdata]
    by_cases same : e = d
    · subst same
      exact ⟨slot, Function.update_self .., effect.pciDev⟩
    · have member := (mem_attached_afterAttach same).mp attached
      obtain ⟨used, chosen, owner⟩ := before.owned e member
      have other : used ≠ slot := by
        intro reused
        subst reused
        exact (free granted).2 e member same used chosen picked.symm
      refine ⟨used, by rw [Function.update_of_ne same, chosen], ?_⟩
      change (after.driverContexts used).pciDev = some e
      rw [effect.others used other]
      exact owner

theorem SlotInv.kept (c : Callback Dev) (before : SlotInv r) (discipline : DetachAttached r c)
    (free : PicksFreeSlot r c) : Leads (step pci) SlotInv r c := by
  cases c with
  | attach d answers => exact before.attach_kept free
  | detach d =>
    obtain ⟨slot, owner, taken, counter⟩ := before.counter.detach_kept pci discipline
    refine ⟨_, taken, counter, before.minors, ?_⟩
    intro e left
    exact before.owned e (Finset.mem_of_mem_erase left)

/-- A picked slot that another attached device has gets a new `pci_dev`,
whatever label the attach ends at. -/
theorem picksFreeSlot_of_slotsOwned (r : RunState Dev) (c : Callback Dev) (before : SlotInv r)
    (leads : Leads (step pci) SlotsOwned r c) : PicksFreeSlot r c := by
  cases c with
  | detach d => trivial
  | attach d answers =>
    intro granted
    obtain ⟨reached, taken, owned, _⟩ := leads
    have notFull : r.world.devAttachCounter ≠ MAX_DEVICE := by
      intro full
      have fault : pciDriverAttach pci answers r.world d = .error (.outOfBounds _) :=
        attach_out_of_bounds before.counter.counter_le granted (by omega)
      simp [step, fault] at taken
    have inside : r.world.devAttachCounter < MAX_DEVICE :=
      lt_of_le_of_ne before.counter.counter_le notFull
    refine ⟨inside, ?_⟩
    intro e member different slot chosen picked
    obtain ⟨ret, after, outcome, effect⟩ := attach_effect pci d picked.symm granted
    obtain rfl : r.afterAttach d ret after = reached :=
      Option.some.inj ((step_attach outcome).symm.trans taken)
    obtain ⟨used, chosenAfter, owner⟩ :=
      owned e ((mem_attached_afterAttach different).mpr member)
    change after.kernel.drvdata e = some used at chosenAfter
    rw [effect.drvdata, Function.update_of_ne different, chosen] at chosenAfter
    obtain rfl : slot = used := Option.some.inj chosenAfter
    change (after.driverContexts slot).pciDev = some e at owner
    rw [effect.pciDev] at owner
    exact different (Option.some.inj owner).symm

/-- Over the runs in which detach is called for attached devices only, attached
devices keep contexts of their own in every state reached exactly when every
attach past `pci_enable_device` picks a slot no other attached device has. -/
theorem slots_owned_iff_picks_free_slot {load : LoadAnswers} {world : World Dev}
    {callbacks : List (Callback Dev)} (loaded : moduleLoad load World.boot = (0, world))
    (discipline : Each (step pci) DetachAttached (RunState.start world) callbacks) :
    Each (step pci) (Leads (step pci) SlotsOwned) (RunState.start world) callbacks ↔
      Each (step pci) PicksFreeSlot (RunState.start world) callbacks := by
  obtain ⟨counter, contexts, _⟩ := load_success loaded
  refine each_iff_each (fun r c before called => ⟨picksFreeSlot_of_slotsOwned r c before, ?_⟩)
    (fun r c after before called free => (SlotInv.kept c before called free).reached)
    (SlotInv.start counter contexts) discipline
  intro free
  obtain ⟨after, taken, invariant⟩ := SlotInv.kept c before called free
  exact ⟨after, taken, invariant.slotsOwned⟩

/-- A device is detached while a later one stays, and a third arrives. -/
def attachAfterDetach : List (Callback Nat) :=
  [.attach 0 (sampleAnswers 0), .attach 1 (sampleAnswers 1), .detach 0,
    .attach 2 (sampleAnswers 2)]

theorem slots_owned_iff_attach_after_detach :
    Each (step fun _ => sampleCard 8192) (Leads (step fun _ => sampleCard 8192) SlotsOwned)
        (RunState.start (moduleLoad sampleLoad World.boot).2) attachAfterDetach ↔
      Each (step fun _ => sampleCard 8192) PicksFreeSlot
        (RunState.start (moduleLoad sampleLoad World.boot).2) attachAfterDetach :=
  slots_owned_iff_picks_free_slot (show moduleLoad sampleLoad World.boot = (0, _) from rfl)
    (by decide +kernel)

/-- The third device is given the slot the second one has. -/
theorem attach_after_detach_shares_slot :
    ¬ ∀ (world : World Nat) (callbacks : List (Callback Nat)),
      moduleLoad sampleLoad World.boot = (0, world) →
      Each (step fun _ => sampleCard 8192) DetachAttached (RunState.start world) callbacks →
      Each (step fun _ => sampleCard 8192)
        (Leads (step fun _ => sampleCard 8192) fun r => r.attached.card ≤ MAX_DEVICE)
        (RunState.start world) callbacks →
      ∀ r, run (step fun _ => sampleCard 8192) (RunState.start world) callbacks = some r →
        SlotsOwned r := by
  intro claim
  have owns := claim _ attachAfterDetach rfl (by decide +kernel) (by decide +kernel)
  obtain ⟨r, reached, facts⟩ := Option.map_eq_some_iff.mp
    (show (run (step fun _ => sampleCard 8192)
        (RunState.start (moduleLoad sampleLoad (World.boot : World Nat)).2)
        attachAfterDetach).map
        (fun r => (r.attached, r.world.kernel.drvdata 1, r.world.kernel.drvdata 2)) =
      some ({1, 2}, some ⟨1, by decide⟩, some ⟨1, by decide⟩) by decide +kernel)
  simp only [Prod.mk.injEq] at facts
  obtain ⟨attached, first, second⟩ := facts
  have apart := (owns r reached).apart 1 (by simp [attached]) 2 (by simp [attached]) (by decide)
    _ _ first second
  exact apart.1 rfl

end LddLearn.Pcidev02
