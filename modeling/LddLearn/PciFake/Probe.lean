import LddLearn.PciFake.Exchange
import LddLearn.PciFake.Ownership

/-!
# What a probe does to its device

A probe that holds its device resets it by its ports, clears the request windows and tags, and
tries one exchange. The accesses are listed in the order of the source; how often the tag is
read, and whether the response is, depends on the tags the device shows. All of them go by the
pointers of the context, and nothing on the way there looks at the size of the mapping, or
whether there is one.
-/

set_option autoImplicit false

namespace LddLearn.PciFake.Binding
open LddLearn.Linux LddLearn.Library LddLearn.Library.Run LddLearn.Library.Memory LddLearn.Ssxa

def SIG_INTERRUPT : BitVec 8 := 0x80
def SIG_CLEANINTERRUPT : BitVec 8 := 0x70

/-- A call that reaches the device. -/
inductive Access where
  | outb (value : BitVec 8) (port : ULong)
  | ioread32 (addr : ULong)
  | iowrite32 (addr : ULong)
  | iowrite32Rep (addr : ULong)
  | memcpyToio (addr : ULong) (count : Nat)
  | memcpyFromio (addr : ULong) (count : Nat)
  deriving DecidableEq, Repr

/-- The memory it touches; `iowrite32_rep` stores every word to the one address. -/
def Access.addresses : Access → Set Nat
  | .outb _ _ => ∅
  | .ioread32 addr => range addr.toNat 4
  | .iowrite32 addr => range addr.toNat 4
  | .iowrite32Rep addr => range addr.toNat 4
  | .memcpyToio addr count => range addr.toNat count
  | .memcpyFromio addr count => range addr.toNat count

section Accesses
variable {Dev : Type} (context : DriverContext Dev) (tags : Nat → BitVec 32)

def resetDevice : List Access :=
  [.outb SIG_INTERRUPT context.devResource.rPort, .outb SIG_CLEANINTERRUPT context.devResource.rPort]

def resetIoAccesses : List Access :=
  (List.finRange MAX_CHIP_IN_DEVICE).flatMap fun index =>
    let worker := context.workers index
    [.iowrite32Rep worker.buffPtr, .iowrite32 worker.tagPtr]

/-- `read(worker, data, 256)` where the tag reads as `tag`. -/
def readAccesses (worker : ChipWorker) (tag : BitVec 32) : List Access :=
  .ioread32 worker.tagPtr ::
    if tag = TAG_FREE then [.memcpyFromio worker.buffPtr 256]
    else if tag = TAG_RETURNED then [.memcpyFromio worker.buffPtr 256]
    else []

/-- The loop of `test_io`, with `left` rounds to go. -/
def pollAccesses (worker : ChipWorker) : Nat → Nat → List Access
  | 0, _ => []
  | left + 1, retry =>
    readAccesses worker (tags retry) ++
      if tags retry = TAG_FREE ∨ tags retry = TAG_RETURNED then []
      else pollAccesses worker left (retry + 1)

def testIoAccesses : List Access :=
  let worker := context.workers firstWorker
  [.memcpyToio worker.buffPtr 256, .iowrite32 worker.tagPtr,
    .outb SIG_INTERRUPT context.devResource.wPort] ++ pollAccesses tags worker 5 0

/-- From `reset_device` on; `tags` is what the device shows at each retry. -/
def probeAccesses : List Access :=
  resetDevice context ++ resetIoAccesses context ++ testIoAccesses context tags

end Accesses

/-! ## Where the accesses go -/

section Workers
variable {Dev : Type} {context : DriverContext Dev} {tags : Nat → BitVec 32} {access : Access}

/-- The access touches the window or the tag word of a worker, if memory at all. -/
def ByWorkers (context : DriverContext Dev) (access : Access) : Prop :=
  ∃ index, access.addresses ⊆ (context.workers index).window ∨
    access.addresses ⊆ (context.workers index).tagWord

theorem byWorkers_port (value : BitVec 8) (port : ULong) : ByWorkers context (.outb value port) :=
  ⟨firstWorker, Or.inl (Set.empty_subset _)⟩

theorem readAccesses_byWorkers (index : Fin MAX_CHIP_IN_DEVICE) {tag : BitVec 32}
    (member : access ∈ readAccesses (context.workers index) tag) : ByWorkers context access := by
  have copied : ByWorkers context (.memcpyFromio (context.workers index).buffPtr 256) :=
    ⟨index, Or.inl (le_refl _)⟩
  unfold readAccesses at member
  rcases List.mem_cons.mp member with rfl | later
  · exact ⟨index, Or.inr (le_refl _)⟩
  · split at later
    · rw [List.mem_singleton.mp later]
      exact copied
    · split at later
      · rw [List.mem_singleton.mp later]
        exact copied
      · exact absurd later List.not_mem_nil

theorem pollAccesses_byWorkers (index : Fin MAX_CHIP_IN_DEVICE) (left retry : Nat)
    (member : access ∈ pollAccesses tags (context.workers index) left retry) :
    ByWorkers context access := by
  induction left generalizing retry with
  | zero => exact absurd member List.not_mem_nil
  | succ left ih =>
    unfold pollAccesses at member
    rcases List.mem_append.mp member with now | later
    · exact readAccesses_byWorkers index now
    · split at later
      · exact absurd later List.not_mem_nil
      · exact ih (retry + 1) later

theorem probeAccesses_byWorkers (member : access ∈ probeAccesses context tags) :
    ByWorkers context access := by
  simp only [probeAccesses, resetDevice, resetIoAccesses, testIoAccesses, List.mem_append,
    List.mem_cons, List.not_mem_nil, or_false, List.mem_flatMap, List.mem_finRange, true_and]
    at member
  rcases member with ((rfl | rfl) | ⟨index, rfl | rfl⟩) | ((rfl | rfl | rfl) | polled)
  · exact byWorkers_port _ _
  · exact byWorkers_port _ _
  · refine ⟨index, Or.inl (range_subset_range (le_refl _) ?_)⟩
    unfold protocolSize
    omega
  · exact ⟨index, Or.inr (le_refl _)⟩
  · exact ⟨firstWorker, Or.inl (le_refl _)⟩
  · exact ⟨firstWorker, Or.inr (le_refl _)⟩
  · exact byWorkers_port _ _
  · exact pollAccesses_byWorkers firstWorker 5 0 polled

/-- `reset_io` frees the tag of every worker. -/
theorem tag_freed (context : DriverContext Dev) (tags : Nat → BitVec 32)
    (index : Fin MAX_CHIP_IN_DEVICE) :
    Access.iowrite32 (context.workers index).tagPtr ∈ probeAccesses context tags := by
  have round : Access.iowrite32 (context.workers index).tagPtr ∈ resetIoAccesses context := by
    refine List.mem_flatMap.mpr ⟨index, List.mem_finRange index, ?_⟩
    simp
  exact List.mem_append_left _ (List.mem_append_right _ round)

theorem ByWorkers.inside {m : Mapping Dev} (by_ : ByWorkers context access)
    (placed : PlacedIn m context) :
    access.addresses ⊆ range m.addr.toNat m.size.toNat := by
  have enough := placed.enough
  unfold layoutSize at enough
  obtain ⟨index, window | tagWord⟩ := by_
  · refine (window.trans (placed.window_subset index)).trans (range_subset_range (le_refl _) ?_)
    omega
  · refine (tagWord.trans (placed.tagWord_subset index)).trans (range_subset_range ?_ ?_)
    · omega
    · omega

/-- The last tag word is the last there is room for. -/
theorem enough_of_last_tag {m : Mapping Dev} (tags_ : context.sBuffer.addr = m.addr + 4096)
    (workers : context.workers = initWorkers context.wBuffer context.sBuffer)
    (inside : (context.workers ⟨15, by decide⟩).tagWord ⊆ range m.addr.toNat m.size.toNat) :
    layoutSize ≤ m.size.toNat := by
  obtain ⟨low, high⟩ := (range_subset_iff (show 0 < 4 by decide)).mp inside
  have tagAt : (context.workers ⟨15, by decide⟩).tagPtr = m.addr + 4096 + 60 := by
    rw [workers, ← tags_]
    rfl
  have first : (4096 : ULong).toNat = 4096 := rfl
  have last : (60 : ULong).toNat = 60 := rfl
  rw [tagAt, BitVec.toNat_add, BitVec.toNat_add, first, last] at low high
  have width := m.addr.isLt
  unfold layoutSize
  omega

end Workers

/-! ## Probes that return 0 -/

section Probes
variable {Dev : Type} [DecidableEq Dev] {pci : Dev → PciDev} {answers : ProbeAnswers}
  {w after : World Dev} {d : Dev}

theorem probe_returned (probed : probe pci answers w d = (0, after)) :
    answers.enable = .ok ∧ answers.hold.regions = .ok := by
  by_cases granted : answers.enable = .ok
  · refine ⟨granted, ?_⟩
    by_contra refused
    rw [probe_refused granted refused] at probed
    exact absurd (Prod.mk.inj probed).1 (by decide)
  · rw [probe_not_enabled granted] at probed
    exact absurd (Prod.mk.inj probed).1 (by decide)

/-- The mapping a probe makes, with the workers placed in its two parts. -/
structure MapsWorkers (pci : Dev → PciDev) (w after : World Dev) (d : Dev) (m : Mapping Dev) :
    Prop where
  made : w.kernel.freshMapping after.kernel = some m
  size : m.size = memBarSize (pci d) (w.driverContexts firstContext).devResource.memSize
  workers : (after.driverContexts firstContext).workers =
    initWorkers (after.driverContexts firstContext).wBuffer (after.driverContexts firstContext).sBuffer
  requests : (after.driverContexts firstContext).wBuffer.addr = m.addr
  tags : (after.driverContexts firstContext).sBuffer.addr = m.addr + 4096

theorem probe_mapsWorkers (probed : probe pci answers w d = (0, after))
    (fresh : w.kernel.FreshRange answers.hold.ioremap
      (memBarSize (pci d) (w.driverContexts firstContext).devResource.memSize)) :
    ∃ m, MapsWorkers pci w after d m := by
  obtain ⟨granted, regions⟩ := probe_returned probed
  rw [← claimed_memSize] at fresh
  rw [probe_mapped granted regions fresh] at probed
  obtain ⟨_, rfl⟩ := Prod.mk.inj probed
  refine ⟨heldMapping (pci d) d answers.hold (w.claimed d) w.kernel fresh, ?_,
    claimed_memSize pci w d, ?_, ?_, ?_⟩
  · simp [Kernel.freshMapping, Kernel.freshLog]
  · rw [World.setContext_self]
    rfl
  · rw [World.setContext_self]
    rfl
  · rw [World.setContext_self]
    rfl

/-- Without a fresh range the probe returns 0 all the same, and there is no mapping. -/
theorem probe_unmapped_made (probed : probe pci answers w d = (0, after))
    (refused : ¬ w.kernel.FreshRange answers.hold.ioremap
      (memBarSize (pci d) (w.driverContexts firstContext).devResource.memSize)) :
    w.kernel.freshMapping after.kernel = none := by
  obtain ⟨granted, regions⟩ := probe_returned probed
  rw [← claimed_memSize] at refused
  rw [probe_unmapped granted regions refused] at probed
  obtain ⟨_, rfl⟩ := Prod.mk.inj probed
  have log : (((w.enabled d).pciRequestRegions (pci d) d PCI_DEVICE_NAME .ok).2.pciReleaseRegions
      (pci d) d).log = w.kernel.log ++ [_] := rfl
  rw [Kernel.freshMapping, Kernel.freshLog, log, List.drop_left]
  rfl

omit [DecidableEq Dev] in
theorem MapsWorkers.placed {m : Mapping Dev} (maps : MapsWorkers pci w after d m)
    (enough : layoutSize ≤ m.size.toNat) : PlacedIn m (after.driverContexts firstContext) :=
  ⟨enough, maps.workers, maps.requests, maps.tags⟩

/-- Whatever the device shows, a probe that returns 0 stays inside the mapping it made, exactly
when `ioremap` gave it one and the device has 4160 bytes of memory. -/
theorem probe_inside_iff (probed : probe pci answers w d = (0, after)) (tags : Nat → BitVec 32) :
    (∃ m, w.kernel.freshMapping after.kernel = some m ∧
        ∀ access ∈ probeAccesses (after.driverContexts firstContext) tags,
          access.addresses ⊆ range m.addr.toNat m.size.toNat) ↔
      w.kernel.FreshRange answers.hold.ioremap
          (memBarSize (pci d) (w.driverContexts firstContext).devResource.memSize) ∧
        layoutSize ≤
          (memBarSize (pci d) (w.driverContexts firstContext).devResource.memSize).toNat := by
  constructor
  · rintro ⟨m, made, inside⟩
    have fresh : w.kernel.FreshRange answers.hold.ioremap
        (memBarSize (pci d) (w.driverContexts firstContext).devResource.memSize) := by
      by_contra refused
      rw [probe_unmapped_made probed refused] at made
      cases made
    refine ⟨fresh, ?_⟩
    obtain ⟨other, maps⟩ := probe_mapsWorkers probed fresh
    obtain rfl : m = other := Option.some.inj (made.symm.trans maps.made)
    rw [← maps.size]
    exact enough_of_last_tag maps.tags maps.workers (inside _ (tag_freed _ tags ⟨15, by decide⟩))
  · rintro ⟨fresh, enough⟩
    obtain ⟨m, maps⟩ := probe_mapsWorkers probed fresh
    rw [← maps.size] at enough
    refine ⟨m, maps.made, fun access member => ?_⟩
    exact (probeAccesses_byWorkers member).inside (maps.placed enough)

/-! ## The whole probe with the device at work -/

omit [DecidableEq Dev] in
theorem resetIo_frame {context : DriverContext Dev} {data : Fin 256 → BitVec 8} {memory : IoMemory}
    {a : Nat} (outside : a ∉ workersMemory context) :
    resetIo context data memory a = memory a := by
  refine resetIo_outside fun index inside => outside ⟨index, ?_⟩
  exact touched_subset context index inside

/-- A probe that maps enough memory, from `reset_io` on: whatever the stack and the memory held then,
whatever request it writes and whatever the device does, its exchange is sound, comes back, and with
`reset_io` leaves the memory behind the first 4160 bytes as `reset_io` found it. (The `memset_io` of
`hold_pci_resources` has cleared all of the mapping before.) -/
theorem probe_exchange_sound (probed : probe pci answers w d = (0, after))
    (fresh : w.kernel.FreshRange answers.hold.ioremap
      (memBarSize (pci d) (w.driverContexts firstContext).devResource.memSize))
    (enough : layoutSize ≤
      (memBarSize (pci d) (w.driverContexts firstContext).devResource.memSize).toNat)
    {request : Frame} {data : Fin 256 → BitVec 8} {memory : IoMemory} {actions : List Action}
    {s : MemoryState}
    (reached : run (memoryStep (after.driverContexts firstContext) request)
      (MemoryState.start (resetIo (after.driverContexts firstContext) data memory)) actions = some s) :
    ∃ m, w.kernel.freshMapping after.kernel = some m ∧
      (actions.map hostSteps).sum ≤ 526 ∧
      ExchangeSound (after.driverContexts firstContext) request s ∧
      ∀ a, a ∉ range m.addr.toNat layoutSize → s.memory a = memory a := by
  obtain ⟨m, maps⟩ := probe_mapsWorkers probed fresh
  have placed := maps.placed (maps.size ▸ enough)
  obtain ⟨steps, sound⟩ := exchangeSound_of_run placed reached
  refine ⟨m, maps.made, steps, sound, fun a outside => ?_⟩
  have elsewhere : a ∉ workersMemory (after.driverContexts firstContext) :=
    fun inside => outside (workersMemory_subset placed inside)
  exact (run_frame elsewhere reached).trans (resetIo_frame elsewhere)

end Probes

/-- The first card of a fresh module. -/
def sampleWorld : World Nat := (krnModuleInit sampleInit World.boot).2

theorem sample_probed :
    probe (fun _ => sampleCard) (sampleAnswers 0) sampleWorld 0 =
      (0, (probe (fun _ => sampleCard) (sampleAnswers 0) sampleWorld 0).2) :=
  Prod.ext (show (probe (fun _ => sampleCard) (sampleAnswers 0) sampleWorld 0).1 = 0 by
    decide +kernel) rfl

theorem sample_fresh :
    sampleWorld.kernel.FreshRange (sampleAnswers 0).hold.ioremap
      (memBarSize sampleCard (sampleWorld.driverContexts firstContext).devResource.memSize) := by
  decide +kernel

theorem probe_inside_iff_silent :
    ∃ after : World Nat, probe (fun _ => sampleCard) (sampleAnswers 0) sampleWorld 0 = (0, after) ∧
      ((∃ m, sampleWorld.kernel.freshMapping after.kernel = some m ∧
          ∀ access ∈ probeAccesses (after.driverContexts firstContext) fun _ => TAG_WRITE,
            access.addresses ⊆ range m.addr.toNat m.size.toNat) ↔
        sampleWorld.kernel.FreshRange (sampleAnswers 0).hold.ioremap
            (memBarSize sampleCard (sampleWorld.driverContexts firstContext).devResource.memSize) ∧
          layoutSize ≤ (memBarSize sampleCard
            (sampleWorld.driverContexts firstContext).devResource.memSize).toNat) :=
  ⟨_, sample_probed, probe_inside_iff sample_probed fun _ => TAG_WRITE⟩

theorem probe_exchange_sound_put :
    ∃ (after : World Nat) (s : MemoryState) (m : Mapping Nat),
      probe (fun _ => sampleCard) (sampleAnswers 0) sampleWorld 0 = (0, after) ∧
      sampleWorld.kernel.freshMapping after.kernel = some m ∧
      (requestPut.map hostSteps).sum ≤ 526 ∧
      ExchangeSound (after.driverContexts firstContext) (fun _ => 0x31) s ∧
      ∀ a, a ∉ range m.addr.toNat layoutSize → s.memory a = 0xff := by
  let after := (probe (fun _ => sampleCard) (sampleAnswers 0) sampleWorld 0).2
  have ran : (run (memoryStep (after.driverContexts firstContext) fun _ => 0x31)
      (MemoryState.start (resetIo (after.driverContexts firstContext) (fun _ => 0) fun _ => 0xff))
      requestPut).isSome = true := by
    decide +kernel
  obtain ⟨s, reached⟩ := Option.isSome_iff_exists.mp ran
  obtain ⟨m, made, sound⟩ := probe_exchange_sound sample_probed sample_fresh (by decide +kernel) reached
  exact ⟨after, s, m, sample_probed, made, sound⟩

end LddLearn.PciFake.Binding
