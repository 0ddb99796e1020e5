import LddLearn.Pcidev01.Faults

/-!
# Reads and writes at the same time

Nothing in the driver keeps two calls on one device apart: the rounds of `pci_read` and
`pci_write` of any threads follow each other on the bus in any order. Every round is still on the
bus once and in its call's order, every byte a device yields goes to one reader, and a call comes
to what it would alone, with the bytes it got for its input.
-/

set_option autoImplicit false

namespace LddLearn.Pcidev01.Sharing
open LddLearn.Linux LddLearn.Library.Run

/-! ## Rounds -/

inductive Request where
  | read (length : Nat)
  | write (buffer : List (BitVec 8))
  deriving DecidableEq, Repr

/-- A call on a file of `dev`, and what it has done so far. -/
structure Call (Dev : Type) where
  dev : Dev
  request : Request
  transfer : Transfer
  deriving DecidableEq, Repr

/-- An access on the bus, with the byte an `inb` of READ_DATA has taken from the device. -/
structure Cycle (Thread Dev : Type) where
  thread : Thread
  dev : Dev
  access : PortAccess
  yielded : Option (BitVec 8)
  deriving DecidableEq, Repr

structure State (Thread Dev : Type) where
  taken : Dev → Nat
  bus : List (Cycle Thread Dev)
  running : Thread → Option (Call Dev)
  returned : Thread → List (Call Dev)

def State.start {Thread Dev : Type} : State Thread Dev :=
  ⟨fun _ => 0, [], fun _ => none, fun _ => []⟩

inductive Action (Thread Dev : Type) where
  | call (thread : Thread) (file : File Dev) (request : Request)
  | round (thread : Thread)
  deriving DecidableEq, Repr

section Step
variable {Thread Dev : Type} (pci : Dev → PciDev)

/-- The next round of a call, if its loop has not ended; `byte` is what the device would yield. -/
def nextAccess (byte : BitVec 8) (c : Call Dev) : Option (PortAccess × Option (BitVec 8)) :=
  let pciIoAddr := ((pci c.dev).bars SSA10A_BAR_IO).start
  match c.request with
  | .read length =>
    if c.transfer.count < length then some (.inb ((pciIoAddr + 1).setWidth 16), some byte) else none
  | .write buffer =>
    buffer[c.transfer.count]?.map fun value =>
      (.outb ((pciIoAddr + 2).setWidth 8) (value.setWidth 16), none)

def Call.after (c : Call Dev) (access : PortAccess) (yielded : Option (BitVec 8)) : Call Dev :=
  { c with
    transfer :=
      { count := c.transfer.count + 1
        accesses := c.transfer.accesses ++ [access]
        user := c.transfer.user ++ yielded.toList } }

variable [DecidableEq Thread] [DecidableEq Dev]

/-- The access is on the bus, and the device has moved on. -/
def State.afterCycle (s : State Thread Dev) (t : Thread) (c : Call Dev) (access : PortAccess)
    (yielded : Option (BitVec 8)) : State Thread Dev :=
  { s with
    taken := Function.update s.taken c.dev (s.taken c.dev + yielded.toList.length)
    bus := s.bus ++ [⟨t, c.dev, access, yielded⟩]
    running := Function.update s.running t (some (c.after access yielded)) }

def State.afterReturn (s : State Thread Dev) (t : Thread) (c : Call Dev) : State Thread Dev :=
  { s with
    running := Function.update s.running t none
    returned := Function.update s.returned t (s.returned t ++ [c]) }

/-- `stream` is what each device yields, byte after byte. -/
def step (stream : Dev → Nat → BitVec 8) (s : State Thread Dev) :
    Action Thread Dev → Option (State Thread Dev)
  | .call t file request =>
    match s.running t, file.privateData with
    | none, some dev =>
      some { s with running := Function.update s.running t (some ⟨dev, request, .empty⟩) }
    | _, _ => none
  | .round t =>
    (s.running t).map fun c =>
      match nextAccess pci (stream c.dev (s.taken c.dev)) c with
      | some (access, yielded) => s.afterCycle t c access yielded
      | none => s.afterReturn t c

end Step

/-! ## What holds of every interleaving -/

section Statements
variable {Thread Dev : Type} (pci : Dev → PciDev)

/-- The calls of a thread, the one under way last. -/
def State.calls (s : State Thread Dev) (t : Thread) : List (Call Dev) :=
  s.returned t ++ (s.running t).toList

/-- The call as it would be alone, reading the bytes it has got. -/
def Performed (c : Call Dev) : Prop :=
  match c.request with
  | .read length =>
    pciRead pci (fun i => c.transfer.user.getD i 0) length ⟨some c.dev⟩ = .ok c.transfer
  | .write buffer => pciWrite pci buffer ⟨some c.dev⟩ = .ok c.transfer

variable [DecidableEq Thread] [DecidableEq Dev]

def State.cyclesOf (s : State Thread Dev) (t : Thread) : List (Cycle Thread Dev) :=
  s.bus.filter (·.thread = t)

structure Sound (stream : Dev → Nat → BitVec 8) (s : State Thread Dev) : Prop where
  /-- the bytes a device has yielded, each to one cycle -/
  divided : ∀ d, (s.bus.filter (·.dev = d)).filterMap (·.yielded) =
    (List.range (s.taken d)).map (stream d)
  /-- a thread's cycles are its calls' accesses -/
  accesses : ∀ t, (s.cyclesOf t).map (fun cycle => (cycle.dev, cycle.access)) =
    (s.calls t).flatMap fun c => c.transfer.accesses.map (c.dev, ·)
  /-- the bytes its calls have got are those its cycles took -/
  received : ∀ t, (s.cyclesOf t).filterMap (fun cycle => cycle.yielded.map (cycle.dev, ·)) =
    (s.calls t).flatMap fun c => c.transfer.user.map (c.dev, ·)
  performed : ∀ t, ∀ c ∈ s.returned t, Performed pci c

end Statements

/-! ## One call -/

section Calls
variable {Dev : Type} {pci : Dev → PciDev} {c : Call Dev} {byte : BitVec 8} {access : PortAccess}
  {yielded : Option (BitVec 8)}

/-- Between two rounds of a call. -/
def Partway (pci : Dev → PciDev) (c : Call Dev) : Prop :=
  let pciIoAddr := ((pci c.dev).bars SSA10A_BAR_IO).start
  match c.request with
  | .read length => c.transfer.count ≤ length ∧ c.transfer.user.length = c.transfer.count ∧
    c.transfer.accesses = List.replicate c.transfer.count (.inb ((pciIoAddr + 1).setWidth 16))
  | .write buffer => c.transfer.count ≤ buffer.length ∧ c.transfer.user = [] ∧
    c.transfer.accesses = (buffer.take c.transfer.count).map fun value =>
      .outb ((pciIoAddr + 2).setWidth 8) (value.setWidth 16)

theorem Partway.start (pci : Dev → PciDev) (dev : Dev) (request : Request) :
    Partway pci ⟨dev, request, .empty⟩ := by
  cases request with
  | read length => exact ⟨Nat.zero_le _, rfl, rfl⟩
  | write buffer => exact ⟨Nat.zero_le _, rfl, rfl⟩

theorem Partway.after (partway : Partway pci c)
    (next : nextAccess pci byte c = some (access, yielded)) : Partway pci (c.after access yielded) := by
  obtain ⟨dev, request, count, accesses, user⟩ := c
  cases request with
  | read length =>
    obtain ⟨_, got, accessed⟩ := partway
    by_cases more : count < length
    · simp only [nextAccess, if_pos more, Option.some.injEq, Prod.mk.injEq] at next
      obtain ⟨rfl, rfl⟩ := next
      refine ⟨more, ?_, ?_⟩
      · simp only [Call.after, Option.toList_some, List.length_append, List.length_singleton]
        exact congrArg (· + 1) got
      · simp only [Call.after, List.replicate_succ']
        exact congrArg (· ++ _) accessed
    · simp only [nextAccess, if_neg more] at next
      cases next
  | write buffer =>
    obtain ⟨_, got, accessed⟩ := partway
    obtain ⟨value, here, same⟩ := Option.map_eq_some_iff.mp next
    obtain ⟨rfl, rfl⟩ := Prod.mk.inj same
    obtain ⟨inside, rfl⟩ := List.getElem?_eq_some_iff.mp here
    refine ⟨inside, ?_, ?_⟩
    · simp only [Call.after, Option.toList_none, List.append_nil]
      exact got
    · simp only [Call.after, List.take_add_one, here, Option.toList_some, List.map_append, List.map_cons,
        List.map_nil]
      exact congrArg (· ++ _) accessed

theorem writeLoop_user (pciIoAddr : ULong) (buffer : List (BitVec 8)) (transfer : Transfer) :
    (writeLoop pciIoAddr buffer transfer).user = transfer.user := by
  induction buffer generalizing transfer with
  | nil => rfl
  | cons value rest ih => rw [writeLoop, ih]

theorem transfer_ext {one other : Transfer} (count : one.count = other.count)
    (accesses : one.accesses = other.accesses) (user : one.user = other.user) : one = other := by
  cases one
  cases other
  simp_all

/-- The bytes of a list, each taken at its place. -/
theorem range_map_getD (bytes : List (BitVec 8)) :
    (List.range bytes.length).map (fun i => bytes.getD i 0) = bytes := by
  apply List.ext_getElem
  · simp
  · intro i inside _
    simp [List.getElem?_eq_getElem (by simpa using inside)]

theorem Partway.performed (partway : Partway pci c) (ended : nextAccess pci byte c = none) :
    Performed pci c := by
  obtain ⟨dev, request, count, accesses, user⟩ := c
  cases request with
  | read length =>
    obtain ⟨bounded, got, accessed⟩ := partway
    dsimp only at bounded got accessed
    have whole : length = count := by
      by_contra short
      have more : count < length := by omega
      simp [nextAccess, more] at ended
    subst whole
    refine congrArg Except.ok (transfer_ext ?_ ?_ ?_)
    · rw [readLoop_count]
      exact Nat.zero_add length
    · rw [readLoop_accesses]
      exact accessed.symm
    · rw [readLoop_user, ← got]
      simp only [Transfer.empty, List.nil_append, Nat.zero_add]
      exact range_map_getD user
  | write buffer =>
    obtain ⟨bounded, got, accessed⟩ := partway
    dsimp only at bounded got accessed
    have whole : buffer.length = count := by
      have behind := List.getElem?_eq_none_iff.mp (Option.map_eq_none_iff.mp ended)
      exact Nat.le_antisymm behind bounded
    refine congrArg Except.ok (transfer_ext ?_ ?_ ?_)
    · rw [writeLoop_count, whole]
      exact Nat.zero_add count
    · rw [writeLoop_accesses, accessed, ← whole, List.take_length]
      exact List.nil_append _
    · rw [writeLoop_user, got]
      rfl

/-- A round takes a byte from the device or none. -/
theorem nextAccess_yields (next : nextAccess pci byte c = some (access, yielded)) :
    yielded = none ∨ yielded = some byte := by
  unfold nextAccess at next
  cases request : c.request with
  | read length =>
    rw [request] at next
    by_cases more : c.transfer.count < length
    · simp only [if_pos more, Option.some.injEq, Prod.mk.injEq] at next
      exact .inr next.2.symm
    · simp only [if_neg more] at next
      cases next
  | write buffer =>
    rw [request] at next
    obtain ⟨value, _, same⟩ := Option.map_eq_some_iff.mp next
    exact .inl (Prod.mk.inj same).2.symm

end Calls

/-! ## Steps -/

section Steps
variable {Thread Dev : Type} [DecidableEq Thread] [DecidableEq Dev] {pci : Dev → PciDev}
  {stream : Dev → Nat → BitVec 8} {s s' : State Thread Dev} {t : Thread} {c : Call Dev}
  {access : PortAccess} {yielded : Option (BitVec 8)}

structure Inv (pci : Dev → PciDev) (stream : Dev → Nat → BitVec 8) (s : State Thread Dev) : Prop where
  sound : Sound pci stream s
  partway : ∀ t, ∀ c ∈ s.running t, Partway pci c

theorem Inv.start (pci : Dev → PciDev) (stream : Dev → Nat → BitVec 8) :
    Inv pci stream (State.start : State Thread Dev) where
  sound := ⟨fun _ => rfl, fun _ => rfl, fun _ => rfl, fun _ _ member => absurd member List.not_mem_nil⟩
  partway := fun _ _ member => absurd member (by simp [State.start])

omit [DecidableEq Thread] [DecidableEq Dev] in
theorem calls_of_running (running : s.running t = some c) : s.calls t = s.returned t ++ [c] := by
  rw [State.calls, running, Option.toList_some]

theorem calls_afterCycle :
    (s.afterCycle t c access yielded).calls t = s.returned t ++ [c.after access yielded] := by
  simp [State.calls, State.afterCycle]

theorem calls_afterCycle_other {other : Thread} (different : other ≠ t) :
    (s.afterCycle t c access yielded).calls other = s.calls other := by
  simp [State.calls, State.afterCycle, different]

theorem cyclesOf_afterCycle :
    (s.afterCycle t c access yielded).cyclesOf t = s.cyclesOf t ++ [⟨t, c.dev, access, yielded⟩] := by
  simp [State.cyclesOf, State.afterCycle]

theorem cyclesOf_afterCycle_other {other : Thread} (different : other ≠ t) :
    (s.afterCycle t c access yielded).cyclesOf other = s.cyclesOf other := by
  simp [State.cyclesOf, State.afterCycle, Ne.symm different]

theorem Sound.divided_afterCycle (before : Sound pci stream s)
    (yields : yielded = none ∨ yielded = some (stream c.dev (s.taken c.dev))) (d : Dev) :
    ((s.afterCycle t c access yielded).bus.filter (·.dev = d)).filterMap (·.yielded) =
      (List.range ((s.afterCycle t c access yielded).taken d)).map (stream d) := by
  by_cases same : c.dev = d
  · subst same
    rcases yields with rfl | rfl
    · simp [State.afterCycle, before.divided]
    · simp [State.afterCycle, before.divided, List.range_succ]
  · have other : Function.update s.taken c.dev (s.taken c.dev + yielded.toList.length) d = s.taken d :=
      Function.update_of_ne (Ne.symm same) _ _
    simp [State.afterCycle, same, other, before.divided]

theorem Inv.afterCycle (before : Inv pci stream s) (running : s.running t = some c)
    (next : nextAccess pci (stream c.dev (s.taken c.dev)) c = some (access, yielded)) :
    Inv pci stream (s.afterCycle t c access yielded) := by
  obtain ⟨sound, partway⟩ := before
  refine ⟨⟨sound.divided_afterCycle (nextAccess_yields next), fun other => ?_, fun other => ?_,
    sound.performed⟩, fun other call member => ?_⟩
  · by_cases same : other = t
    · subst same
      rw [cyclesOf_afterCycle, calls_afterCycle, List.map_append, sound.accesses,
        calls_of_running running]
      simp [Call.after]
    · rw [cyclesOf_afterCycle_other same, calls_afterCycle_other same]
      exact sound.accesses other
  · by_cases same : other = t
    · subst same
      rw [cyclesOf_afterCycle, calls_afterCycle, List.filterMap_append, sound.received,
        calls_of_running running]
      cases yielded with
      | none => simp [Call.after]
      | some byte => simp [Call.after]
    · rw [cyclesOf_afterCycle_other same, calls_afterCycle_other same]
      exact sound.received other
  · by_cases same : other = t
    · subst same
      have moved : c.after access yielded = call := by
        simpa [State.afterCycle] using member
      exact moved ▸ (partway other c running).after next
    · have still : s.running other = some call := by
        simpa [State.afterCycle, same] using member
      exact partway other call still

theorem Inv.afterReturn (before : Inv pci stream s) (running : s.running t = some c)
    (ended : nextAccess pci (stream c.dev (s.taken c.dev)) c = none) :
    Inv pci stream (s.afterReturn t c) := by
  obtain ⟨sound, partway⟩ := before
  have calls (other : Thread) : (s.afterReturn t c).calls other = s.calls other := by
    by_cases same : other = t
    · subst same
      simp [State.calls, State.afterReturn, running]
    · simp [State.calls, State.afterReturn, same]
  refine ⟨⟨sound.divided, fun other => ?_, fun other => ?_, fun other call member => ?_⟩,
    fun other call member => ?_⟩
  · rw [calls other]
    exact sound.accesses other
  · rw [calls other]
    exact sound.received other
  · by_cases same : other = t
    · subst same
      simp only [State.afterReturn, Function.update_self, List.mem_append, List.mem_singleton] at member
      rcases member with earlier | rfl
      · exact sound.performed other call earlier
      · exact (partway other call running).performed ended
    · simp only [State.afterReturn, Function.update_of_ne same] at member
      exact sound.performed other call member
  · by_cases same : other = t
    · subst same
      simp [State.afterReturn] at member
    · have still : s.running other = some call := by
        simpa [State.afterReturn, same] using member
      exact partway other call still

theorem Inv.afterCall (before : Inv pci stream s) (idle : s.running t = none) (dev : Dev)
    (request : Request) :
    Inv pci stream { s with running := Function.update s.running t (some ⟨dev, request, .empty⟩) } := by
  obtain ⟨sound, partway⟩ := before
  let started : State Thread Dev :=
    { s with running := Function.update s.running t (some ⟨dev, request, .empty⟩) }
  have called : started.calls t = s.calls t ++ [⟨dev, request, .empty⟩] := by
    simp [State.calls, started, idle]
  have others {other : Thread} (different : other ≠ t) : started.calls other = s.calls other := by
    simp [State.calls, started, different]
  refine ⟨⟨sound.divided, fun other => ?_, fun other => ?_, sound.performed⟩,
    fun other call member => ?_⟩
  · refine (sound.accesses other).trans ?_
    by_cases same : other = t
    · subst same
      rw [called]
      simp [Transfer.empty]
    · rw [others same]
  · refine (sound.received other).trans ?_
    by_cases same : other = t
    · subst same
      rw [called]
      simp [Transfer.empty]
    · rw [others same]
  · by_cases same : other = t
    · subst same
      simp only [Function.update_self, Option.mem_def, Option.some.injEq] at member
      exact member ▸ Partway.start pci dev request
    · simp only [Function.update_of_ne same] at member
      exact partway other call member

theorem Inv.kept (a : Action Thread Dev) (before : Inv pci stream s)
    (taken : step pci stream s a = some s') : Inv pci stream s' := by
  cases a with
  | call t file request =>
    obtain ⟨privateData⟩ := file
    cases idle : s.running t with
    | some c => simp [step, idle] at taken
    | none =>
      cases privateData with
      | none => simp [step, idle] at taken
      | some dev =>
        simp only [step, idle, Option.some.injEq] at taken
        exact taken ▸ before.afterCall idle dev request
  | round t =>
    obtain ⟨c, running, moved⟩ := Option.map_eq_some_iff.mp taken
    cases next : nextAccess pci (stream c.dev (s.taken c.dev)) c with
    | none =>
      rw [next] at moved
      exact moved ▸ before.afterReturn running next
    | some cycle =>
      rw [next] at moved
      exact moved ▸ before.afterCycle running next

/-! ## A device of one's own -/

/-- The bytes that belong to one device. -/
def ofDevice (d : Dev) (tagged : List (Dev × BitVec 8)) : List (BitVec 8) :=
  tagged.filterMap fun pair => if pair.1 = d then some pair.2 else none

omit [DecidableEq Thread] in
theorem ofDevice_cycles (d : Dev) (cycles : List (Cycle Thread Dev)) :
    ofDevice d (cycles.filterMap fun cycle => cycle.yielded.map (cycle.dev, ·)) =
      (cycles.filter (·.dev = d)).filterMap (·.yielded) := by
  induction cycles with
  | nil => rfl
  | cons cycle rest ih =>
    unfold ofDevice at ih ⊢
    by_cases same : cycle.dev = d <;> cases took : cycle.yielded <;> simp [same, took, ih]

theorem ofDevice_calls (d : Dev) (calls : List (Call Dev)) :
    ofDevice d (calls.flatMap fun c => c.transfer.user.map (c.dev, ·)) =
      (calls.filter (·.dev = d)).flatMap (·.transfer.user) := by
  induction calls with
  | nil => rfl
  | cons c rest ih =>
    have own : ofDevice d (c.transfer.user.map (c.dev, ·)) =
        if c.dev = d then c.transfer.user else [] := by
      unfold ofDevice
      rw [List.filterMap_map]
      split <;> simp_all
    have split (one other : List (Dev × BitVec 8)) :
        ofDevice d (one ++ other) = ofDevice d one ++ ofDevice d other := List.filterMap_append
    rw [List.flatMap_cons, split, own, ih]
    by_cases same : c.dev = d <;> simp [same]

/-- The thread that has a device to itself reads its stream in order. -/
theorem Sound.alone (sound : Sound pci stream s) {d : Dev}
    (own : ∀ cycle ∈ s.bus, cycle.dev = d → cycle.thread = t) :
    ((s.calls t).filter (·.dev = d)).flatMap (·.transfer.user) =
      (List.range (s.taken d)).map (stream d) := by
  have cycles : (s.cyclesOf t).filter (·.dev = d) = s.bus.filter (·.dev = d) := by
    rw [State.cyclesOf, List.filter_filter]
    apply List.filter_congr
    intro cycle member
    by_cases same : cycle.dev = d
    · simp [same, own cycle member same]
    · simp [same]
  rw [← ofDevice_calls, ← sound.received, ofDevice_cycles, cycles, sound.divided]

end Steps

end LddLearn.Pcidev01.Sharing
