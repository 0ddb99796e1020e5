import LddLearn.PciFake.Reset
import LddLearn.PciFake.Returns

/-!
# The exchange in the mapped memory

The handshake of `test_io` gives every worker a frame and a tag of its own. Here the steps are
those of the source on the one memory behind the mapping: bytes and 32-bit words at the
addresses that `init_workers` has computed. Where the workers are placed in a mapping that is
large enough, their windows and tag words do not meet, and each step on the memory is the
handshake's step on the frames and tags found in it.
-/

set_option autoImplicit false

namespace LddLearn.PciFake
open LddLearn.Linux LddLearn.Library LddLearn.Library.Run LddLearn.Library.Memory LddLearn.Ssxa

/-! ## Words -/

/-- `ioread32(addr)` -/
def ioread32 (memory : IoMemory) (addr : ULong) : BitVec 32 :=
  memory (addr.toNat + 3) ++ memory (addr.toNat + 2) ++ memory (addr.toNat + 1) ++ memory addr.toNat

theorem ioread32_of_same {memory other : IoMemory} {addr : ULong}
    (same : ∀ a ∈ range addr.toNat 4, memory a = other a) :
    ioread32 memory addr = ioread32 other addr := by
  have byte (i : Nat) (small : i < 4) : memory (addr.toNat + i) = other (addr.toNat + i) :=
    same _ (by rw [mem_range]; omega)
  rw [ioread32, ioread32, byte 3 (by decide), byte 2 (by decide), byte 1 (by decide),
    show memory addr.toNat = other addr.toNat from byte 0 (by decide)]

/-- A word that was written is read back. -/
theorem ioread32_iowrite32 (memory : IoMemory) (value : BitVec 32) (addr : ULong) :
    ioread32 (iowrite32 memory value addr) addr = value := by
  have byte (i : Nat) (small : i < 4) : iowrite32 memory value addr (addr.toNat + i) =
      (ByteOrder.littleEndian.bytes32 value)[i] := store_inside small
  have whole : value.extractLsb' 24 8 ++ value.extractLsb' 16 8 ++ value.extractLsb' 8 8 ++
      value.extractLsb' 0 8 = value := by
    rw [BitVec.extractLsb'_append_extractLsb'_eq_extractLsb' (by rfl),
      BitVec.extractLsb'_append_extractLsb'_eq_extractLsb' (by rfl),
      BitVec.extractLsb'_append_extractLsb'_eq_extractLsb' (by rfl)]
    exact BitVec.extractLsb'_eq_self
  rw [ioread32, byte 3 (by decide), byte 2 (by decide), byte 1 (by decide),
    show iowrite32 memory value addr addr.toNat = _ from byte 0 (by decide)]
  exact whole

theorem iowrite32_outside {memory : IoMemory} {value : BitVec 32} {addr : ULong} {a : Nat}
    (outside : a ∉ range addr.toNat 4) : iowrite32 memory value addr a = memory a :=
  store_outside outside

/-! ## The steps -/

/-- What `State` holds, with the workers' frames and tags in the memory. -/
structure MemoryState where
  memory : IoMemory
  jobs : Fin MAX_CHIP_IN_DEVICE → Job
  requestReads : Fin MAX_CHIP_IN_DEVICE → List (Fin protocolSize × BitVec 8)
  rung : Bool
  pc : TestIo
  data : Frame
  entry : Frame
  calls : List ReadCall

def MemoryState.start (memory : IoMemory) : MemoryState where
  memory := memory
  jobs := fun _ => .idle
  requestReads := fun _ => []
  rung := false
  pc := .copyToio 0
  data := fun _ => 0
  entry := fun _ => 0
  calls := []

def MemoryState.returns (s : MemoryState) (retry bytes : Nat) : MemoryState :=
  { s with
    calls := s.calls ++ [⟨bytes, s.entry, s.data⟩]
    pc := if bytes = 256 then .done else .poll (retry + 1) }

section Steps
variable {Dev : Type} (context : DriverContext Dev) (request : Frame)

/-- A step of `test_io`, which takes `driver_context->workers[0]`. -/
def memoryHostStep (s : MemoryState) : Option MemoryState :=
  let worker := context.workers firstWorker
  match s.pc with
  | .copyToio count =>
    if inside : count < protocolSize then
      let memory := store s.memory (worker.buffPtr.toNat + count) [request ⟨count, inside⟩]
      some { s with memory, pc := .copyToio (count + 1) }
    else some { s with pc := .storeTag }
  | .storeTag => some { s with memory := iowrite32 s.memory TAG_WRITE worker.tagPtr, pc := .ring }
  | .ring => some { s with rung := true, pc := .poll 0 }
  | .poll retry =>
    if retry < 5 then some { s with entry := s.data, pc := .readTag retry }
    else some { s with pc := .done }
  | .readTag retry =>
    let tag := ioread32 s.memory worker.tagPtr
    if tag = TAG_FREE then some { s with pc := .copyFromio retry 0 }
    else if tag = TAG_RETURNED then some { s with pc := .copyFromio retry 0 }
    else some (s.returns retry 0)
  | .copyFromio retry count =>
    if inside : count < protocolSize then
      let data := Function.update s.data ⟨count, inside⟩ (s.memory (worker.buffPtr.toNat + count))
      some { s with data, pc := .copyFromio retry (count + 1) }
    else some (s.returns retry protocolSize)
  | .done => none

def memoryDeviceStep (s : MemoryState) (index : Fin MAX_CHIP_IN_DEVICE) :
    DeviceAction → Option MemoryState
  | .start =>
    match s.jobs index with
    | .working _ => none
    | _ =>
      if s.rung = true ∧ ioread32 s.memory (context.workers index).tagPtr = TAG_WRITE then
        some { s with jobs := Function.update s.jobs index (.working fun _ => none) }
      else none
  | .readByte offset =>
    match s.jobs index with
    | .working written =>
      match written offset with
      | none =>
        let byte := s.memory ((context.workers index).buffPtr.toNat + offset)
        some { s with
          requestReads :=
            Function.update s.requestReads index ((offset, byte) :: s.requestReads index) }
      | some _ => some s
    | _ => none
  | .writeByte offset value =>
    match s.jobs index with
    | .working written =>
      some { s with
        memory := store s.memory ((context.workers index).buffPtr.toNat + offset) [value]
        jobs := Function.update s.jobs index
          (.working (Function.update written offset (some value))) }
    | _ => none
  | .finish tag =>
    match s.jobs index with
    | .working written =>
      if tag = TAG_RETURNED ∨ tag = TAG_FREE then
        if complete : ∀ offset, (written offset).isSome then
          some { s with
            memory := iowrite32 s.memory tag (context.workers index).tagPtr
            jobs := Function.update s.jobs index
              (.answered fun offset => (written offset).get (complete offset)) }
        else none
      else none
    | _ => none

def memoryStep (s : MemoryState) : Action → Option MemoryState
  | .host => memoryHostStep context request s
  | .device index action => memoryDeviceStep context s index action

end Steps

/-! ## The frames and tags in the memory -/

section View
variable {Dev : Type} (context : DriverContext Dev)

def windowAt (memory : IoMemory) (index : Fin MAX_CHIP_IN_DEVICE) : Frame :=
  fun offset => memory ((context.workers index).buffPtr.toNat + offset)

def tagAt (memory : IoMemory) (index : Fin MAX_CHIP_IN_DEVICE) : BitVec 32 :=
  ioread32 memory (context.workers index).tagPtr

def MemoryState.workerAt (s : MemoryState) (index : Fin MAX_CHIP_IN_DEVICE) : Worker :=
  ⟨windowAt context s.memory index, tagAt context s.memory index, s.jobs index, s.requestReads index⟩

def MemoryState.view (s : MemoryState) : State where
  workers := s.workerAt context
  rung := s.rung
  pc := s.pc
  data := s.data
  entry := s.entry
  calls := s.calls

end View

section Placed
variable {Dev : Type} {m : Mapping Dev} {context : DriverContext Dev} {memory other : IoMemory}
  {index i : Fin MAX_CHIP_IN_DEVICE}

theorem windowAt_of_same (same : ∀ a ∈ (context.workers index).window, memory a = other a) :
    windowAt context memory index = windowAt context other index := by
  funext offset
  apply same
  rw [ChipWorker.window, mem_range]
  omega

theorem tagAt_of_same (same : ∀ a ∈ (context.workers index).tagWord, memory a = other a) :
    tagAt context memory index = tagAt context other index :=
  ioread32_of_same same

/-- The address of a byte of a window. -/
theorem byte_in_window (context : DriverContext Dev) (index : Fin MAX_CHIP_IN_DEVICE)
    (offset : Fin protocolSize) :
    (context.workers index).buffPtr.toNat + offset ∈ (context.workers index).window := by
  rw [ChipWorker.window, mem_range]
  omega

theorem mem_byte {start a : Nat} {value : BitVec 8} (other : a ≠ start) :
    store memory start [value] a = memory a := by
  apply store_outside
  rw [mem_range, List.length_singleton]
  omega

theorem storeByte_same (start : Nat) (value : BitVec 8) : store memory start [value] start = value := by
  have stored : store memory start [value] (start + 0) = [value][0] := store_inside (by simp)
  exact stored

/-- A byte stored in the window of `index` changes the one frame at the one offset. -/
theorem windowAt_storeByte (placed : PlacedIn m context) (offset : Fin protocolSize)
    (value : BitVec 8) :
    windowAt context
        (store memory ((context.workers index).buffPtr.toNat + offset) [value]) =
      Function.update (windowAt context memory) index
        (Function.update (windowAt context memory index) offset value) := by
  funext i
  by_cases here : i = index
  · subst here
    rw [Function.update_self]
    funext j
    by_cases same : j = offset
    · rw [same, Function.update_self]
      exact storeByte_same _ value
    · rw [Function.update_of_ne same]
      apply mem_byte
      have different : j.val ≠ offset.val := fun equal => same (Fin.ext equal)
      omega
  · rw [Function.update_of_ne here]
    apply windowAt_of_same
    intro a inside
    apply mem_byte
    rintro rfl
    exact Set.disjoint_left.mp (placed.windows_disjoint here) inside (byte_in_window context index offset)

theorem tagAt_storeByte (placed : PlacedIn m context) (offset : Fin protocolSize)
    (value : BitVec 8) :
    tagAt context (store memory ((context.workers index).buffPtr.toNat + offset) [value]) =
      tagAt context memory := by
  funext i
  apply tagAt_of_same
  intro a inside
  apply mem_byte
  rintro rfl
  exact Set.disjoint_left.mp (placed.kinds_disjoint index i) (byte_in_window context index offset) inside

/-- A tag that is written is that worker's only. -/
theorem tagAt_iowrite32 (placed : PlacedIn m context) (tag : BitVec 32) :
    tagAt context (iowrite32 memory tag (context.workers index).tagPtr) =
      Function.update (tagAt context memory) index tag := by
  funext i
  by_cases here : i = index
  · subst here
    rw [Function.update_self]
    exact ioread32_iowrite32 memory tag _
  · rw [Function.update_of_ne here]
    apply tagAt_of_same
    intro a inside
    exact iowrite32_outside (Set.disjoint_left.mp (placed.tagWords_disjoint here) inside)

theorem windowAt_iowrite32 (placed : PlacedIn m context) (tag : BitVec 32) :
    windowAt context (iowrite32 memory tag (context.workers index).tagPtr) =
      windowAt context memory := by
  funext i
  apply windowAt_of_same
  intro a inside
  exact iowrite32_outside (Set.disjoint_left.mp (placed.kinds_disjoint i index) inside)

/-! ## Step by step -/

/-- One worker differs, in what is named. -/
theorem workerAt_update {s s' : MemoryState} {worker : Worker}
    (window : windowAt context s'.memory =
      Function.update (windowAt context s.memory) index worker.buff)
    (tag : tagAt context s'.memory = Function.update (tagAt context s.memory) index worker.tag)
    (jobs : s'.jobs = Function.update s.jobs index worker.job)
    (reads : s'.requestReads = Function.update s.requestReads index worker.requestReads) :
    s'.workerAt context = Function.update (s.workerAt context) index worker := by
  funext i
  by_cases here : i = index
  · subst here
    simp [MemoryState.workerAt, window, tag, jobs, reads]
  · simp [MemoryState.workerAt, window, tag, jobs, reads, here]

/-- A byte stored in a window, whatever else of that worker changes. -/
theorem workerAt_storeByte (placed : PlacedIn m context) {s s' : MemoryState}
    (offset : Fin protocolSize) (value : BitVec 8) {job : Job}
    (stored : s'.memory =
      store s.memory ((context.workers index).buffPtr.toNat + offset) [value])
    (jobs : s'.jobs = Function.update s.jobs index job) (reads : s'.requestReads = s.requestReads) :
    s'.workerAt context = Function.update (s.workerAt context) index
      { s.workerAt context index with
        buff := Function.update (windowAt context s.memory index) offset value
        job := job } := by
  apply workerAt_update
  · rw [stored]
    exact windowAt_storeByte placed offset value
  · rw [stored, tagAt_storeByte placed]
    exact (Function.update_eq_self _ _).symm
  · exact jobs
  · rw [reads]
    exact (Function.update_eq_self _ _).symm

/-- A tag that is written, whatever else of that worker changes. -/
theorem workerAt_iowrite32 (placed : PlacedIn m context) {s s' : MemoryState} (tag : BitVec 32)
    {job : Job} (stored : s'.memory = iowrite32 s.memory tag (context.workers index).tagPtr)
    (jobs : s'.jobs = Function.update s.jobs index job) (reads : s'.requestReads = s.requestReads) :
    s'.workerAt context = Function.update (s.workerAt context) index
      { s.workerAt context index with tag := tag, job := job } := by
  apply workerAt_update
  · rw [stored, windowAt_iowrite32 placed]
    exact (Function.update_eq_self _ _).symm
  · rw [stored]
    exact tagAt_iowrite32 placed tag
  · exact jobs
  · rw [reads]
    exact (Function.update_eq_self _ _).symm

/-- Nothing in the memory changes. -/
theorem workerAt_sameMemory {s s' : MemoryState} {job : Job}
    {reads : List (Fin protocolSize × BitVec 8)} (memory : s'.memory = s.memory)
    (jobs : s'.jobs = Function.update s.jobs index job)
    (requestReads : s'.requestReads = Function.update s.requestReads index reads) :
    s'.workerAt context = Function.update (s.workerAt context) index
      { s.workerAt context index with job := job, requestReads := reads } := by
  apply workerAt_update
  · rw [memory]
    exact (Function.update_eq_self _ _).symm
  · rw [memory]
    exact (Function.update_eq_self _ _).symm
  · exact jobs
  · exact requestReads

theorem host_view (placed : PlacedIn m context) (request : Frame) (s : MemoryState) :
    (memoryHostStep context request s).map (·.view context) =
      hostStep firstWorker request (s.view context) := by
  unfold memoryHostStep hostStep
  cases pc : s.pc with
  | copyToio count =>
    simp only [MemoryState.view, pc]
    split
    next inside =>
      exact congrArg (fun workers => some (State.mk workers s.rung (.copyToio (count + 1)) s.data
        s.entry s.calls)) (workerAt_storeByte placed (s := s) ⟨count, inside⟩ _ rfl
          (Function.update_eq_self firstWorker s.jobs).symm rfl)
    next past => rfl
  | storeTag =>
    simp only [MemoryState.view, pc]
    exact congrArg (fun workers => some (State.mk workers s.rung .ring s.data s.entry s.calls))
      (workerAt_iowrite32 placed (s := s) TAG_WRITE rfl
        (Function.update_eq_self firstWorker s.jobs).symm rfl)
  | ring =>
    simp only [MemoryState.view, pc]
    rfl
  | poll retry =>
    simp only [MemoryState.view, pc]
    split
    · rfl
    · rfl
  | readTag retry =>
    simp only [MemoryState.view, pc]
    change Option.map _ (if tagAt context s.memory firstWorker = TAG_FREE then _
      else if tagAt context s.memory firstWorker = TAG_RETURNED then _ else _) =
        if tagAt context s.memory firstWorker = TAG_FREE then _
        else if tagAt context s.memory firstWorker = TAG_RETURNED then _ else _
    split
    · rfl
    · split
      · rfl
      · rfl
  | copyFromio retry count =>
    simp only [MemoryState.view, pc]
    split
    · rfl
    · rfl
  | done =>
    simp only [MemoryState.view, pc]
    rfl

theorem start_view (s : MemoryState) (index : Fin MAX_CHIP_IN_DEVICE) :
    (memoryDeviceStep context s index .start).map (·.view context) =
      (deviceStep s.rung (s.workerAt context index) .start).map ((s.view context).setWorker index) := by
  have job : (s.workerAt context index).job = s.jobs index := rfl
  have tag : (s.workerAt context index).tag = ioread32 s.memory (context.workers index).tagPtr := rfl
  let started : MemoryState :=
    { s with jobs := Function.update s.jobs index (.working fun _ => none) }
  have workers : started.workerAt context = Function.update (s.workerAt context) index
      { s.workerAt context index with job := .working fun _ => none } :=
    workerAt_sameMemory rfl rfl (Function.update_eq_self index s.requestReads).symm
  simp only [memoryDeviceStep, deviceStep, job, tag]
  cases s.jobs index with
  | working written => rfl
  | idle | answered =>
    dsimp only
    split
    · exact congrArg (fun workers => some (State.mk workers s.rung s.pc s.data s.entry s.calls)) workers
    · rfl

theorem working_view (placed : PlacedIn m context) (s : MemoryState) (action : DeviceAction)
    {written : Fin protocolSize → Option (BitVec 8)} (working : s.jobs index = .working written) :
    (memoryDeviceStep context s index action).map (·.view context) =
      (deviceStep s.rung (s.workerAt context index) action).map
        ((s.view context).setWorker index) := by
  have job : (s.workerAt context index).job = .working written := working
  -- the view of a state that differs in the workers only
  let whole := fun workers => some (State.mk workers s.rung s.pc s.data s.entry s.calls)
  cases action with
  | start => exact start_view s index
  | readByte offset =>
    simp only [memoryDeviceStep, deviceStep, working, job]
    cases own : written offset with
    | none =>
      have kept : s.jobs = Function.update s.jobs index (.working written) := by
        rw [← working, Function.update_eq_self]
      exact congrArg whole (workerAt_sameMemory (s := s) rfl kept rfl)
    | some value => exact congrArg whole (Function.update_eq_self index (s.workerAt context)).symm
  | writeByte offset value =>
    simp only [memoryDeviceStep, deviceStep, working, job]
    exact congrArg whole (workerAt_storeByte placed (s := s) offset value rfl rfl rfl)
  | finish tag =>
    simp only [memoryDeviceStep, deviceStep, working, job]
    by_cases known : tag = TAG_RETURNED ∨ tag = TAG_FREE
    · by_cases complete : ∀ offset, (written offset).isSome
      · rw [if_pos known, dif_pos complete, dif_pos ⟨known, complete⟩]
        exact congrArg whole (workerAt_iowrite32 placed (s := s) tag rfl rfl rfl)
      · rw [if_pos known, dif_neg complete, dif_neg fun both => complete both.2]
        rfl
    · rw [if_neg known, dif_neg fun both => known both.1]
      rfl

theorem device_view (placed : PlacedIn m context) (s : MemoryState) (action : DeviceAction) :
    (memoryDeviceStep context s index action).map (·.view context) =
      (deviceStep s.rung (s.workerAt context index) action).map
        ((s.view context).setWorker index) := by
  cases job : s.jobs index with
  | working written => exact working_view placed s action job
  | idle | answered =>
    have idle : (s.workerAt context index).job = s.jobs index := rfl
    cases action with
    | start => exact start_view s index
    | readByte | writeByte | finish =>
      simp only [memoryDeviceStep, deviceStep, idle, job]
      rfl

theorem step_view (placed : PlacedIn m context) (request : Frame) (s : MemoryState) (a : Action) :
    (memoryStep context request s a).map (·.view context) =
      step firstWorker request (s.view context) a := by
  cases a with
  | host => exact host_view placed request s
  | device index action => exact device_view placed s action

/-! ## What is left alone -/

/-- Windows and tag words of all workers. -/
def workersMemory (context : DriverContext Dev) : Set Nat :=
  {a | ∃ index, a ∈ (context.workers index).window ∨ a ∈ (context.workers index).tagWord}

theorem storeByte_frame {a : Nat} (outside : a ∉ workersMemory context) (offset : Fin protocolSize)
    (value : BitVec 8) :
    store memory ((context.workers index).buffPtr.toNat + offset) [value] a = memory a := by
  apply mem_byte
  rintro rfl
  exact outside ⟨index, Or.inl (byte_in_window context index offset)⟩

theorem iowrite32_frame {a : Nat} (outside : a ∉ workersMemory context) (tag : BitVec 32) :
    iowrite32 memory tag (context.workers index).tagPtr a = memory a :=
  iowrite32_outside fun inside => outside ⟨index, Or.inr inside⟩

theorem memoryHostStep_frame {a : Nat} (outside : a ∉ workersMemory context) {request : Frame}
    {s t : MemoryState} (taken : memoryHostStep context request s = some t) :
    t.memory a = s.memory a := by
  unfold memoryHostStep at taken
  cases pc : s.pc with
  | copyToio count =>
    simp only [pc] at taken
    split at taken
    next inside =>
      obtain rfl := Option.some.inj taken
      exact storeByte_frame outside ⟨count, inside⟩ _
    next =>
      obtain rfl := Option.some.inj taken
      rfl
  | storeTag =>
    simp only [pc] at taken
    obtain rfl := Option.some.inj taken
    exact iowrite32_frame outside _
  | ring =>
    simp only [pc] at taken
    obtain rfl := Option.some.inj taken
    rfl
  | poll | copyFromio =>
    simp only [pc] at taken
    split at taken
    · obtain rfl := Option.some.inj taken
      rfl
    · obtain rfl := Option.some.inj taken
      rfl
  | readTag retry =>
    simp only [pc] at taken
    split at taken
    · obtain rfl := Option.some.inj taken
      rfl
    · split at taken
      · obtain rfl := Option.some.inj taken
        rfl
      · obtain rfl := Option.some.inj taken
        rfl
  | done => simp [pc] at taken

theorem memoryDeviceStep_frame {a : Nat} (outside : a ∉ workersMemory context) {s t : MemoryState}
    {index : Fin MAX_CHIP_IN_DEVICE} (action : DeviceAction)
    (taken : memoryDeviceStep context s index action = some t) : t.memory a = s.memory a := by
  cases job : s.jobs index with
  | working written =>
    cases action with
    | start => simp [memoryDeviceStep, job] at taken
    | readByte offset =>
      simp only [memoryDeviceStep, job] at taken
      split at taken
      · obtain rfl := Option.some.inj taken
        rfl
      · obtain rfl := Option.some.inj taken
        rfl
    | writeByte offset value =>
      simp only [memoryDeviceStep, job] at taken
      obtain rfl := Option.some.inj taken
      exact storeByte_frame outside offset value
    | finish tag =>
      simp only [memoryDeviceStep, job] at taken
      split at taken
      · split at taken
        · obtain rfl := Option.some.inj taken
          exact iowrite32_frame outside tag
        · exact absurd taken (by simp)
      · exact absurd taken (by simp)
  | idle | answered =>
    cases action with
    | start =>
      simp only [memoryDeviceStep, job] at taken
      split at taken
      · obtain rfl := Option.some.inj taken
        rfl
      · exact absurd taken (by simp)
    | readByte | writeByte | finish => simp [memoryDeviceStep, job] at taken

theorem memoryStep_frame {a : Nat} (outside : a ∉ workersMemory context) {request : Frame}
    {s t : MemoryState} (action : Action) (taken : memoryStep context request s action = some t) :
    t.memory a = s.memory a := by
  cases action with
  | host => exact memoryHostStep_frame outside taken
  | device index action => exact memoryDeviceStep_frame outside action taken

/-- The windows and tag words take the first 4160 bytes of the mapping. -/
theorem workersMemory_subset (placed : PlacedIn m context) :
    workersMemory context ⊆ range m.addr.toNat layoutSize := by
  rintro a ⟨index, window | tagWord⟩
  · refine range_subset_range (le_refl _) ?_ (placed.window_subset index window)
    unfold layoutSize
    omega
  · rw [placed.tagWord, mem_range] at tagWord
    have chip : index.val < 16 := index.isLt
    rw [mem_range]
    unfold layoutSize
    omega

/-! ## Runs -/

section Runs
variable {actions : List Action} {request : Frame} {s : MemoryState}

/-- Runs on the memory are, seen through its windows and tag words, the runs of the handshake. -/
theorem run_refines (placed : PlacedIn m context) (request : Frame) (memory : IoMemory)
    (actions : List Action) :
    (run (memoryStep context request) (MemoryState.start memory) actions).map (·.view context) =
      run (step firstWorker request)
        (State.start (windowAt context memory) (tagAt context memory)) actions :=
  run_view (step_view placed request) _ actions

theorem run_frame {a : Nat} (outside : a ∉ workersMemory context)
    (reached : run (memoryStep context request) (MemoryState.start memory) actions = some s) :
    s.memory a = memory a := by
  let same : MemoryState → Prop := fun s => s.memory a = memory a
  have kept (s : MemoryState) (action : Action) (t : MemoryState) (before : same s)
      (taken : memoryStep context request s action = some t) : same t :=
    (memoryStep_frame outside action taken).trans before
  exact run_preserves kept rfl reached

/-- The runs on the memory are those of the handshake, and write nothing of it beside the
windows and tag words. -/
theorem memory_refines_exchange (placed : PlacedIn m context) (request : Frame) (memory : IoMemory)
    (actions : List Action) :
    (run (memoryStep context request) (MemoryState.start memory) actions).map (·.view context) =
        run (step firstWorker request)
          (State.start (windowAt context memory) (tagAt context memory)) actions ∧
      ∀ s ∈ run (memoryStep context request) (MemoryState.start memory) actions,
        ∀ a, a ∉ workersMemory context → s.memory a = memory a :=
  ⟨run_refines placed request memory actions, fun _ reached _ outside => run_frame outside reached⟩

/-- Where the exchange stands, in the memory of the device. -/
structure ExchangeSound (context : DriverContext Dev) (request : Frame) (s : MemoryState) :
    Prop where
  /-- under a device at work lies the request but for what it has written itself -/
  serves : ∀ written, s.jobs firstWorker = .working written →
    ∀ offset, windowAt context s.memory firstWorker offset = (written offset).getD (request offset)
  reads : ∀ read ∈ s.requestReads firstWorker, read.2 = request read.1
  returned : s.pc = .done → Answered firstWorker (s.view context) ∨ GaveUp (s.view context)

theorem exchangeSound_of_run (placed : PlacedIn m context)
    (reached : run (memoryStep context request) (MemoryState.start memory) actions = some s) :
    (actions.map hostSteps).sum ≤ 526 ∧ ExchangeSound context request s := by
  have seen : run (step firstWorker request)
      (State.start (windowAt context memory) (tagAt context memory)) actions =
        some (s.view context) := by
    rw [← run_refines placed, reached]
    rfl
  have exchange := exchangeInv_of_run seen
  exact ⟨hostSteps_le seen, fun _ working => exchange.serves working, exchange.reads,
    returned_of_run seen⟩

end Runs

end Placed

/-- The request is written, its tag set and the device rung. -/
def requestPut : List Action := List.replicate 259 .host

theorem memory_refines_exchange_put :
    (run (memoryStep sampleContext fun _ => 0x31) (MemoryState.start fun _ => 0xff) requestPut).map
        (·.view sampleContext) =
      run (step firstWorker fun _ => 0x31)
        (State.start (windowAt sampleContext fun _ => 0xff) (tagAt sampleContext fun _ => 0xff))
        requestPut ∧
    ∀ s ∈ run (memoryStep sampleContext fun _ => 0x31) (MemoryState.start fun _ => 0xff) requestPut,
      ∀ a, a ∉ workersMemory sampleContext → s.memory a = 0xff :=
  memory_refines_exchange sampleContext_placed (fun _ => 0x31) (fun _ => 0xff) requestPut

end LddLearn.PciFake
