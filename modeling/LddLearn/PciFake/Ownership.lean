import LddLearn.PciFake.Driver

/-!
# Who owns what is unmapped and released

`remove` frees what the device's context holds, and every device has the same context.
So a probe that gets past `pci_enable_device` while another device is bound takes that
device's context over, and one whose `ioremap` fails leaves its device bound without
a mapping. Without such probes every remove takes back exactly its device's mapping and
regions.
-/

set_option autoImplicit false

namespace LddLearn.PciFake.Binding
open LddLearn.Linux LddLearn.Ssxa LddLearn.Library.Run

variable {Dev : Type} [DecidableEq Dev] {pci : Dev → PciDev} {answers : ProbeAnswers}
  {r r' : RunState Dev} {w after : World Dev} {d e : Dev} {slot : ContextPtr}

/-! ## Property and condition -/

/-- Removing the device now unmaps the mapping its probe made, which is there, releases its
regions, which are held, and nothing else. -/
def RemovesOwn (pci : Dev → PciDev) (r : RunState Dev) (e : Dev) : Prop :=
  ∃ m after, r.mapped e = some m ∧ r.world.kernel.mappingAt m.addr = some m ∧
    remove pci r.world e = .ok after ∧
    Kernel.freshLog r.world.kernel after.kernel =
      [.iounmap m.addr (some e), .pciReleaseRegions e true]

/-- The call found what it released. -/
def ReleaseFound : Event Dev ContextPtr → Prop
  | .iounmap _ owner => owner ≠ none
  | .pciReleaseRegions _ held => held = true
  | _ => True

structure Owned (pci : Dev → PciDev) (r : RunState Dev) : Prop where
  removes : ∀ e ∈ r.bound, RemovesOwn pci r e
  once : ∀ event ∈ r.world.kernel.log, ReleaseFound event

def KeepsOwned (pci : Dev → PciDev) (r : RunState Dev) (c : Callback Dev) : Prop :=
  ∀ r' ∈ step pci r c, Owned pci r'

/-- A probe that gets past `pci_enable_device` finds no device bound, and once it has its
regions it gets its mapping. -/
def HoldsAlone (pci : Dev → PciDev) (r : RunState Dev) : Callback Dev → Prop
  | .probe d answers => answers.enable = .ok → r.bound = ∅ ∧
      (answers.hold.regions = .ok → r.world.kernel.FreshRange answers.hold.ioremap
        (memBarSize (pci d) (r.world.driverContexts firstContext).devResource.memSize))
  | .remove _ => True

instance (pci : Dev → PciDev) (r : RunState Dev) : ∀ c : Callback Dev, Decidable (HoldsAlone pci r c)
  | .probe d answers => inferInstanceAs (Decidable (answers.enable = .ok → r.bound = ∅ ∧
      (answers.hold.regions = .ok → r.world.kernel.FreshRange answers.hold.ioremap
        (memBarSize (pci d) (r.world.driverContexts firstContext).devResource.memSize))))
  | .remove _ => isTrue trivial

/-- At most one device is bound, and all drvdata is the first context. -/
structure OwnInv (pci : Dev → PciDev) (r : RunState Dev) : Prop where
  owned : Owned pci r
  alone : ∀ e ∈ r.bound, ∀ f ∈ r.bound, e = f
  drvdata : ∀ e slot, r.world.kernel.drvdata e = some slot → slot = firstContext

/-! ## Remove -/

/-- The kernel `remove` leaves for a context in use by `e`. -/
def World.freed (pci : Dev → PciDev) (w : World Dev) (e : Dev) (slot : ContextPtr) :
    Kernel Dev ContextPtr :=
  (w.kernel.iounmap (w.driverContexts slot).baseAddr.addr).pciReleaseRegions (pci e) e

theorem freed_log (pci : Dev → PciDev) (w : World Dev) (e : Dev) (slot : ContextPtr) :
    (w.freed pci e slot).log = w.kernel.log ++
      [.iounmap (w.driverContexts slot).baseAddr.addr
          ((w.kernel.mappingAt (w.driverContexts slot).baseAddr.addr).map (·.owner)),
        .pciReleaseRegions e (decide (w.kernel.HoldsRegions (pci e) e))] := by
  have log : (w.freed pci e slot).log = w.kernel.log ++ [_] ++ [_] := rfl
  rw [log, List.append_assoc]
  rfl

theorem remove_ok (removed : remove pci w d = .ok after) :
    ∃ slot e, w.kernel.drvdata d = some slot ∧ (w.driverContexts slot).pciDev = some e ∧
      after = { w with kernel := w.freed pci e slot } := by
  cases chosen : w.kernel.drvdata d with
  | none => simp [remove, Kernel.pciGetDrvdata, chosen] at removed
  | some slot =>
    cases used : (w.driverContexts slot).pciDev with
    | none =>
      simp [remove, Kernel.pciGetDrvdata, chosen, freePciResources, used, Except.map] at removed
    | some e =>
      rw [remove_used chosen used] at removed
      exact ⟨slot, e, rfl, used, (Except.ok.inj removed).symm⟩

theorem step_remove (removed : remove pci r.world d = .ok after) :
    step pci r (.remove d) = some { r with world := after, bound := r.bound.erase d } := by
  simp only [step, removed]

/-- What the context in a device's drvdata must be for its remove to be exact. -/
theorem RemovesOwn.context (own : RemovesOwn pci r e) (chosen : r.world.kernel.drvdata e = some slot) :
    (r.world.driverContexts slot).pciDev = some e := by
  obtain ⟨m, after, _, _, removed, log⟩ := own
  obtain ⟨other, f, chosen', used, rfl⟩ := remove_ok removed
  obtain rfl : slot = other := Option.some.inj (chosen.symm.trans chosen')
  rw [Kernel.freshLog, freed_log, List.drop_left] at log
  simp only [List.cons.injEq, Event.pciReleaseRegions.injEq] at log
  rw [used, log.2.1.1]

theorem OwnInv.remove_kept (before : OwnInv pci r) (called : CoreCalls r (.remove d)) :
    ∃ r', step pci r (.remove d) = some r' ∧ OwnInv pci r' := by
  obtain ⟨m, after, _, _, removed, log⟩ := before.owned.removes d called
  refine ⟨_, step_remove removed, ⟨?_, ?_⟩, ?_, ?_⟩
  · intro e bound
    obtain ⟨different, member⟩ := Finset.mem_erase.mp bound
    exact absurd (before.alone e member d called) different
  · obtain ⟨slot, e, _, _, rfl⟩ := remove_ok removed
    rw [Kernel.freshLog, freed_log, List.drop_left] at log
    intro event member
    change event ∈ (r.world.freed pci e slot).log at member
    rw [freed_log, log] at member
    simp only [List.mem_append, List.mem_cons, List.not_mem_nil, or_false] at member
    rcases member with earlier | rfl | rfl
    · exact before.owned.once event earlier
    · exact Option.some_ne_none d
    · rfl
  · intro e bound f bound'
    exact before.alone e (Finset.mem_of_mem_erase bound) f (Finset.mem_of_mem_erase bound')
  · obtain ⟨_, _, _, _, rfl⟩ := remove_ok removed
    exact before.drvdata

/-! ## Probe -/

theorem step_probe : step pci r (.probe d answers) =
    some (r.afterProbe d (probe pci answers r.world d).1 (probe pci answers r.world d).2) := rfl

/-- Past `pci_enable_device` the first context is `d`'s, whatever becomes of the probe. -/
theorem probe_claims (pci : Dev → PciDev) (w : World Dev) (d : Dev)
    (granted : answers.enable = .ok) :
    ((probe pci answers w d).2.driverContexts firstContext).pciDev = some d ∧
      (probe pci answers w d).2.kernel.drvdata =
        Function.update w.kernel.drvdata d (some firstContext) := by
  by_cases regions : answers.hold.regions = .ok
  · by_cases fresh : w.kernel.FreshRange answers.hold.ioremap
      (scanBars (pci d) (w.claimed d).devResource).memSize
    · rw [probe_mapped granted regions fresh]
      exact ⟨by simp [initWorkersOf, mappedContext, remappedContext, World.claimed], rfl⟩
    · rw [probe_unmapped granted regions fresh]
      exact ⟨by simp [initWorkersOf, remappedContext, World.claimed], rfl⟩
  · rw [probe_refused granted regions]
    exact ⟨by simp [World.claimed], rfl⟩

theorem OwnInv.drvdata_probe (before : OwnInv pci r) (answers : ProbeAnswers) (d : Dev) :
    ∀ e slot, (probe pci answers r.world d).2.kernel.drvdata e = some slot → slot = firstContext := by
  intro e slot chosen
  by_cases granted : answers.enable = .ok
  · rw [(probe_claims pci r.world d granted).2] at chosen
    by_cases here : e = d
    · subst here
      rw [Function.update_self] at chosen
      exact (Option.some.inj chosen).symm
    · rw [Function.update_of_ne here] at chosen
      exact before.drvdata e slot chosen
  · rw [probe_not_enabled granted] at chosen
    exact before.drvdata e slot chosen

/-- A device that is bound has its drvdata set. -/
theorem OwnInv.bound_drvdata (before : OwnInv pci r) (bound : e ∈ r.bound) :
    r.world.kernel.drvdata e = some firstContext := by
  obtain ⟨_, _, _, _, removed, _⟩ := before.owned.removes e bound
  obtain ⟨slot, _, chosen, _⟩ := remove_ok removed
  rw [chosen, before.drvdata e slot chosen]

/-- A probe that takes the context over leaves no earlier device its own. -/
theorem OwnInv.taken_over (before : OwnInv pci r) (called : d ∉ r.bound)
    (granted : answers.enable = .ok) (bound : e ∈ r.bound) :
    ¬ KeepsOwned pci r (.probe d answers) := by
  intro keeps
  obtain ⟨used, drvdata⟩ := probe_claims pci r.world d granted
  have different : e ≠ d := fun same => called (same ▸ bound)
  have still : e ∈ (r.afterProbe d (probe pci answers r.world d).1
      (probe pci answers r.world d).2).bound := by
    unfold RunState.afterProbe
    split
    · exact Finset.mem_insert_of_mem bound
    · exact bound
  have own := (keeps _ step_probe).removes e still
  have chosen : (probe pci answers r.world d).2.kernel.drvdata e = some firstContext := by
    rw [drvdata, Function.update_of_ne different]
    exact before.bound_drvdata bound
  have mine := own.context chosen
  change ((probe pci answers r.world d).2.driverContexts firstContext).pciDev = some e at mine
  exact different (Option.some.inj (mine.symm.trans used))

/-- A probe whose `ioremap` fails returns 0 without a mapping to remove. -/
theorem unmapped_not_owned (granted : answers.enable = .ok) (regions : answers.hold.regions = .ok)
    (refused : ¬ r.world.kernel.FreshRange answers.hold.ioremap
      (scanBars (pci d) (r.world.claimed d).devResource).memSize) :
    ¬ KeepsOwned pci r (.probe d answers) := by
  intro keeps
  have probed := probe_unmapped (d := d) granted regions refused
  have owned := keeps _ step_probe
  rw [probed] at owned
  obtain ⟨m, _, mapped, _⟩ := owned.removes d (Finset.mem_insert_self d r.bound)
  have log : (((r.world.enabled d).pciRequestRegions (pci d) d PCI_DEVICE_NAME .ok).2.pciReleaseRegions
      (pci d) d).log = r.world.kernel.log ++ [_] := rfl
  simp only [RunState.afterProbe, Function.update_self, Kernel.freshMapping, Kernel.freshLog, log,
    List.drop_left, List.findSome?_cons, List.findSome?_nil, reduceCtorEq] at mapped

/-- A refused `pci_enable_device` leaves everything as it was. -/
theorem OwnInv.not_enabled (before : OwnInv pci r) (called : d ∉ r.bound)
    (refused : answers.enable ≠ .ok) :
    OwnInv pci (r.afterProbe d (probe pci answers r.world d).1 (probe pci answers r.world d).2) := by
  rw [probe_not_enabled refused]
  refine ⟨⟨?_, before.owned.once⟩, before.alone, before.drvdata⟩
  intro e bound
  have different : e ≠ d := fun same => called (same ▸ bound)
  obtain ⟨m, after, mapped, found⟩ := before.owned.removes e bound
  refine ⟨m, after, ?_, found⟩
  exact (Function.update_of_ne different _ _).trans mapped

/-- Refused regions bind nothing. -/
theorem OwnInv.not_held (before : OwnInv pci r) (granted : answers.enable = .ok)
    (refused : answers.hold.regions ≠ .ok) (nobody : r.bound = ∅) :
    OwnInv pci (r.afterProbe d (probe pci answers r.world d).1 (probe pci answers r.world d).2) := by
  have drvdata := before.drvdata_probe answers d
  rw [probe_refused granted refused] at drvdata ⊢
  have bound : (r.afterProbe d (-1) { r.world.setContext firstContext (r.world.claimed d) with
      kernel := r.world.enabled d }).bound = ∅ := nobody
  refine ⟨⟨?_, before.owned.once⟩, ?_, drvdata⟩
  · rw [bound]
    exact fun e member => absurd member (Finset.notMem_empty e)
  · rw [bound]
    exact fun e member => absurd member (Finset.notMem_empty e)

/-- What a probe leaves that got its regions and, as `m`, its mapping. -/
structure Holds (pci : Dev → PciDev) (w after : World Dev) (d : Dev) (m : Mapping Dev) : Prop where
  owner : m.owner = d
  log : after.kernel.log = w.kernel.log ++ [.ioremap m, .memsetIo m.addr m.size]
  chosen : after.kernel.drvdata d = some firstContext
  used : (after.driverContexts firstContext).pciDev = some d
  addr : (after.driverContexts firstContext).baseAddr.addr = m.addr
  found : after.kernel.mappingAt m.addr = some m
  regions : after.kernel.HoldsRegions (pci d) d

theorem probe_holds (granted : answers.enable = .ok) (regions : answers.hold.regions = .ok)
    (fresh : w.kernel.FreshRange answers.hold.ioremap
      (scanBars (pci d) (w.claimed d).devResource).memSize) :
    ∃ after m, probe pci answers w d = (0, after) ∧ Holds pci w after d m := by
  refine ⟨_, heldMapping (pci d) d answers.hold (w.claimed d) w.kernel fresh,
    probe_mapped granted regions fresh, ?_⟩
  constructor
  · rfl
  · exact List.append_assoc _ _ _
  · exact Function.update_self d _ w.kernel.drvdata
  · simp only [World.setContext_self]
    rfl
  · simp only [World.setContext_self]
    rfl
  · exact List.find?_cons_of_pos (by simp)
  · intro bar implemented
    change Function.update w.kernel.regions d _ d bar ≠ none
    rw [Function.update_self, if_neg implemented]
    exact Option.some_ne_none PCI_DEVICE_NAME

/-- The device that gets its regions and its mapping will give back these. -/
theorem Holds.removes {m : Mapping Dev} (holds : Holds pci r.world after d m) :
    RemovesOwn pci (r.afterProbe d 0 after) d := by
  have mapped : (r.afterProbe d 0 after).mapped d = some m := by
    change Function.update r.mapped d (Kernel.freshMapping r.world.kernel after.kernel) d = some m
    rw [Function.update_self, Kernel.freshMapping, Kernel.freshLog, holds.log, List.drop_left]
    rfl
  refine ⟨m, _, mapped, holds.found, remove_used holds.chosen holds.used, ?_⟩
  change Kernel.freshLog after.kernel (after.freed pci d firstContext) = _
  rw [Kernel.freshLog, freed_log, List.drop_left, holds.addr, holds.found,
    decide_eq_true holds.regions, Option.map_some, holds.owner]

theorem OwnInv.held {m : Mapping Dev} (before : OwnInv pci r) (holds : Holds pci r.world after d m)
    (drvdata : ∀ e slot, after.kernel.drvdata e = some slot → slot = firstContext)
    (nobody : r.bound = ∅) : OwnInv pci (r.afterProbe d 0 after) := by
  have bound : (r.afterProbe d 0 after).bound = {d} := by
    change insert d r.bound = {d}
    rw [nobody]
    rfl
  refine ⟨⟨?_, ?_⟩, ?_, drvdata⟩
  · intro e member
    rw [bound, Finset.mem_singleton] at member
    exact member ▸ holds.removes
  · intro event member
    change event ∈ after.kernel.log at member
    rw [holds.log] at member
    simp only [List.mem_append, List.mem_cons, List.not_mem_nil, or_false] at member
    rcases member with earlier | rfl | rfl
    · exact before.owned.once event earlier
    · trivial
    · trivial
  · intro e member f member'
    rw [bound, Finset.mem_singleton] at member member'
    rw [member, member']

/-! ## Every run -/

omit [DecidableEq Dev] in
theorem claimed_memSize (pci : Dev → PciDev) (w : World Dev) (d : Dev) :
    (scanBars (pci d) (w.claimed d).devResource).memSize =
      memBarSize (pci d) (w.driverContexts firstContext).devResource.memSize :=
  scanBars_memSize (pci d) (w.claimed d).devResource

theorem OwnInv.kept {c : Callback Dev} (before : OwnInv pci r) (called : CoreCalls r c)
    (alone : HoldsAlone pci r c) (taken : step pci r c = some r') : OwnInv pci r' := by
  cases c with
  | remove d =>
    obtain ⟨t, reached, after⟩ := before.remove_kept called
    exact Option.some.inj (reached.symm.trans taken) ▸ after
  | probe d answers =>
    obtain rfl := Option.some.inj (step_probe.symm.trans taken)
    by_cases granted : answers.enable = .ok
    · obtain ⟨nobody, mapped⟩ := alone granted
      by_cases regions : answers.hold.regions = .ok
      · have fresh := mapped regions
        rw [← claimed_memSize] at fresh
        have drvdata := before.drvdata_probe answers d
        obtain ⟨after, m, probed, holds⟩ := probe_holds granted regions fresh
        rw [probed] at drvdata ⊢
        exact before.held holds drvdata nobody
      · exact before.not_held granted regions nobody
    · exact before.not_enabled called granted

theorem keepsOwned_iff {c : Callback Dev} (before : OwnInv pci r) (called : CoreCalls r c) :
    KeepsOwned pci r c ↔ HoldsAlone pci r c := by
  constructor
  · intro keeps
    cases c with
    | remove d => trivial
    | probe d answers =>
      intro granted
      constructor
      · apply Finset.eq_empty_of_forall_notMem
        exact fun e bound => before.taken_over called granted bound keeps
      · intro regions
        by_contra refused
        rw [← claimed_memSize] at refused
        exact unmapped_not_owned granted regions refused keeps
  · intro alone r' taken
    exact (before.kept called alone taken).owned

theorem OwnInv.start {boot : World Dev} (idle : boot.kernel.drvdata = fun _ => none)
    (quiet : boot.kernel.log = []) : OwnInv pci (RunState.start boot) where
  owned :=
    { removes := fun e member => absurd member (Finset.notMem_empty e)
      once := by
        intro event member
        change event ∈ boot.kernel.log at member
        rw [quiet] at member
        exact absurd member List.not_mem_nil }
  alone := fun e member => absurd member (Finset.notMem_empty e)
  drvdata := by
    intro e slot chosen
    change boot.kernel.drvdata e = some slot at chosen
    rw [idle] at chosen
    cases chosen

omit [DecidableEq Dev] in
theorem loaded_quiet {init : InitAnswers} {world : World Dev}
    (loaded : krnModuleInit init World.boot = (0, world)) :
    (world.kernel.drvdata = fun _ => none) ∧ world.kernel.log = [] := by
  obtain ⟨allocChrdev, major, registerDriver⟩ := init
  cases allocChrdev with
  | error errno =>
    have failed : (Answer.error errno).code < 0 := by simp
    simp [krnModuleInit, Kernel.allocChrdevRegion, failed] at loaded
  | ok =>
    cases registerDriver with
    | error errno =>
      have failed : (Answer.error errno).code < 0 := by simp
      simp [krnModuleInit, Kernel.allocChrdevRegion, failed] at loaded
    | ok =>
      simp only [krnModuleInit, Kernel.allocChrdevRegion, Answer.code_ok, lt_irrefl, if_false,
        Prod.mk.injEq, true_and] at loaded
      subst loaded
      exact ⟨rfl, rfl⟩

/-- Over the PCI core's runs: every remove takes back exactly its device's mapping and
regions and nothing is given back twice, exactly when each probe that gets past
`pci_enable_device` finds no device bound and does not fail to map what it reserved. -/
theorem owned_iff_holds_alone {init : InitAnswers} {world : World Dev}
    {callbacks : List (Callback Dev)} (loaded : krnModuleInit init World.boot = (0, world))
    (called : Each (step pci) CoreCalls (RunState.start world) callbacks) :
    Each (step pci) (KeepsOwned pci) (RunState.start world) callbacks ↔
      Each (step pci) (HoldsAlone pci) (RunState.start world) callbacks := by
  obtain ⟨idle, quiet⟩ := loaded_quiet loaded
  have start : OwnInv pci (RunState.start world) := .start idle quiet
  refine each_iff_each (fun r c before allowed => ?_) ?_ start called
  · exact keepsOwned_iff before allowed
  · intro r c r' before allowed alone taken
    exact before.kept allowed alone taken

/-- A PCI device with both kinds of BAR. -/
def sampleCard : PciDev where
  bars := fun bar =>
    match bar.val with
    | 0 => { flags := IORESOURCE_IO, start := 0xc000, len := 256 }
    | 1 => { flags := IORESOURCE_MEM, start := 0xfebf0000, len := 8192 }
    | _ => { flags := 0, start := 0, len := 0 }
  irq := 11

def sampleInit : InitAnswers where
  allocChrdev := .ok
  major := 251
  registerDriver := .ok

/-- The answers to the `n`-th probe where nothing fails. -/
def sampleAnswers (n : Nat) : ProbeAnswers where
  enable := .ok
  hold := ⟨.ok, 0xffffc90000000000 + BitVec.ofNat 64 (n * 8192)⟩

/-- One card after the other. -/
def oneByOne : List (Callback Nat) :=
  [.probe 0 (sampleAnswers 0), .remove 0, .probe 1 (sampleAnswers 1), .remove 1]

theorem owned_iff_holds_alone_one_by_one :
    Each (step fun _ => sampleCard) (KeepsOwned fun _ => sampleCard)
        (RunState.start (krnModuleInit sampleInit World.boot).2) oneByOne ↔
      Each (step fun _ => sampleCard) (HoldsAlone fun _ => sampleCard)
        (RunState.start (krnModuleInit sampleInit World.boot).2) oneByOne :=
  owned_iff_holds_alone (show krnModuleInit sampleInit World.boot = (0, _) from rfl)
    (by decide +kernel)

/-- With two cards in, the first one's remove unmaps and releases what is the second's. -/
theorem second_probe_takes_over :
    ¬ ∀ (world : World Nat) (callbacks : List (Callback Nat)),
      krnModuleInit sampleInit World.boot = (0, world) →
      Each (step fun _ => sampleCard) CoreCalls (RunState.start world) callbacks →
      Each (step fun _ => sampleCard) (KeepsOwned fun _ => sampleCard) (RunState.start world)
        callbacks := by
  intro claim
  obtain ⟨_, later⟩ := claim _ [.probe 0 (sampleAnswers 0), .probe 1 (sampleAnswers 1)] rfl
    (by decide +kernel)
  obtain ⟨r, reached, seen⟩ := Option.map_eq_some_iff.mp
    (show (run (step fun _ => sampleCard) (RunState.start (krnModuleInit sampleInit World.boot).2)
        [.probe 0 (sampleAnswers 0), .probe 1 (sampleAnswers 1)]).map
        (fun r => (decide (0 ∈ r.bound), r.world.kernel.drvdata 0,
          (r.world.driverContexts firstContext).pciDev)) = some (true, some firstContext, some 1) by
      decide +kernel)
  simp only [Prod.mk.injEq, decide_eq_true_eq] at seen
  obtain ⟨bound, chosen, used⟩ := seen
  obtain ⟨middle, first, rest⟩ := Option.bind_eq_some_iff.mp reached
  obtain ⟨last, second, same⟩ := Option.bind_eq_some_iff.mp rest
  obtain rfl := Option.some.inj same
  have own := ((later middle first).1 _ second).removes 0 bound
  exact absurd ((own.context chosen).symm.trans used) (by decide)

end LddLearn.PciFake.Binding
