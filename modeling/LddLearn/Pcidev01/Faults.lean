import LddLearn.Pcidev01.Files
import LddLearn.Library.Copy

/-!
# Reads into memory that faults

Each `inb` of READ_DATA takes a byte of the device's stream. `pci_read` drops the answer of
`put_user`: it goes on taking and counting bytes after one that could not be stored. So its
count is that of the bytes stored for reads without a fault only, and a second fault in one
read leaves a gap in the stream that is not at the first.
-/

set_option autoImplicit false

namespace LddLearn.Pcidev01
open LddLearn.Linux LddLearn.Library.Run LddLearn.Library.Copy

/-! ## Reads of a stream -/

/-- What one `pci_read` asks for and where to, and the user addresses `put_user` cannot write. -/
structure ReadCall where
  length : Nat
  buffer : Nat
  faults : Nat → Bool

/-- The stores `put_user` has made in the transfer. -/
def ReadCall.stores (c : ReadCall) (done : Transfer) : List (Nat × BitVec 8) :=
  copyOut c.faults c.buffer done.user

/-- How many bytes the device has yielded, what has been stored of them, and the places in the
stream of those that met the first fault of a read. -/
structure StreamState where
  taken : Nat
  stored : List (BitVec 8)
  gaps : List Nat

def StreamState.start : StreamState := ⟨0, [], []⟩

/-- Every access of a read takes a byte. -/
def StreamState.after (r : StreamState) (c : ReadCall) (done : Transfer) : StreamState where
  taken := r.taken + done.accesses.length
  stored := r.stored ++ (c.stores done).map (·.2)
  gaps := r.gaps ++
    ((firstFault c.faults c.buffer done.accesses.length).map (r.taken + ·)).toList

section Statements
variable {Dev : Type} (pci : Dev → PciDev) (d : Dev) (stream : Nat → BitVec 8)

/-- A `pci_read` of a file of `d`, which goes on with the stream. -/
def readNext (r : StreamState) (c : ReadCall) : Except Fault Transfer :=
  pciRead pci (fun i => stream (r.taken + i)) c.length ⟨some d⟩

def streamStep (r : StreamState) (c : ReadCall) : Option StreamState :=
  match readNext pci d stream r c with
  | .ok done => some (r.after c done)
  | .error _ => none

/-! ## Property and condition -/

/-- All the bytes taken are counted, but for one at the first fault. -/
def TakenCounted (c : ReadCall) (done : Transfer) : Prop :=
  done.accesses.length = done.count ∨ done.accesses.length = done.count + 1 ∧
    firstFault c.faults c.buffer done.accesses.length = some done.count

/-- All the bytes counted are stored, but for one at the first fault. -/
def CountedStored (c : ReadCall) (done : Transfer) : Prop :=
  done.count = (c.stores done).length ∨ done.count = (c.stores done).length + 1 ∧
    firstFault c.faults c.buffer done.accesses.length ≠ none

/-- What has been stored is the stream in order, without the bytes at first faults. -/
def StreamState.InOrder (r : StreamState) : Prop :=
  r.stored = ((List.range r.taken).filter (· ∉ r.gaps)).map stream

/-- The read counts the bytes it stores, and the stream loses at most the byte at the first
fault, which is not counted. -/
def ReadExact (r : StreamState) (c : ReadCall) : Prop :=
  ∃ done, readNext pci d stream r c = .ok done ∧ done.count = (c.stores done).length ∧
    TakenCounted c done ∧ (r.after c done).InOrder stream

/-- The same, if the byte at the first fault may be counted. -/
def ReadExactButFirst (r : StreamState) (c : ReadCall) : Prop :=
  ∃ done, readNext pci d stream r c = .ok done ∧ CountedStored c done ∧ TakenCounted c done ∧
    (r.after c done).InOrder stream

/-- `put_user` can write all the buffer. -/
def ReadCall.Writable (c : ReadCall) : Prop := ∀ i < c.length, c.faults (c.buffer + i) = false

end Statements

/-! ## One read -/

theorem readLoop_user (pciIoAddr : ULong) (input : Nat → BitVec 8) (left : Nat)
    (transfer : Transfer) :
    (readLoop pciIoAddr input left transfer).user =
      transfer.user ++ (List.range left).map fun i => input (transfer.count + i) := by
  induction left generalizing transfer with
  | zero => exact (List.append_nil _).symm
  | succ left ih =>
    have shift (i : Nat) : input (transfer.count + 1 + i) = input (transfer.count + (i + 1)) :=
      congrArg input (by omega)
    rw [readLoop, ih, List.range_succ_eq_map, List.map_cons, List.map_map, List.append_assoc]
    simp only [shift]
    rfl

section Read
variable {Dev : Type} {pci : Dev → PciDev} {d : Dev} {stream : Nat → BitVec 8} {r : StreamState}
  {c : ReadCall} {done : Transfer}

/-- A read takes, counts and passes on as many bytes as it is asked for. -/
theorem readNext_yields (pci : Dev → PciDev) (d : Dev) (stream : Nat → BitVec 8) (r : StreamState)
    (c : ReadCall) :
    ∃ done, readNext pci d stream r c = .ok done ∧ done.count = c.length ∧
      done.accesses.length = c.length ∧
      done.user = (List.range c.length).map fun i => stream (r.taken + i) := by
  have returned : readNext pci d stream r c = .ok (readLoop ((pci d).bars SSA10A_BAR_IO).start
      (fun i => stream (r.taken + i)) c.length .empty) := rfl
  refine ⟨_, returned, pciRead_count returned, ?_, ?_⟩
  · rw [readLoop_accesses, Transfer.empty, List.nil_append, List.length_replicate]
  · rw [readLoop_user, Transfer.empty, List.nil_append]
    simp only [Nat.zero_add]

theorem counts_stores_iff (counted : done.count = c.length) (passed : done.user.length = c.length) :
    done.count = (c.stores done).length ↔ c.Writable := by
  have all : (c.stores done).length = done.user.length ↔ ∀ i < done.user.length,
      c.faults (c.buffer + i) = false := copyOut_length_eq_iff c.buffer done.user
  rw [passed] at all
  rw [counted, eq_comm, all]
  rfl

/-- No gap lies ahead of the stream. -/
structure StreamInv (stream : Nat → BitVec 8) (r : StreamState) : Prop where
  inOrder : r.InOrder stream
  behind : ∀ gap ∈ r.gaps, gap < r.taken

theorem StreamInv.start (stream : Nat → BitVec 8) : StreamInv stream .start where
  inOrder := rfl
  behind := fun _ impossible => absurd impossible List.not_mem_nil

theorem mem_gaps_after (r : StreamState) (c : ReadCall) (done : Transfer) (place : Nat) :
    place ∈ (r.after c done).gaps ↔ place ∈ r.gaps ∨
      ∃ i, firstFault c.faults c.buffer done.accesses.length = some i ∧ r.taken + i = place := by
  rw [StreamState.after, List.mem_append, Option.mem_toList, Option.map_eq_some_iff]

/-- The stream as it should have been stored grows by the bytes of the read that did not meet
its first fault. -/
theorem StreamInv.expected_after (before : StreamInv stream r) (c : ReadCall) (done : Transfer) :
    ((List.range (r.after c done).taken).filter (· ∉ (r.after c done).gaps)).map stream =
      r.stored ++ ((List.range done.accesses.length).filter fun i =>
        firstFault c.faults c.buffer done.accesses.length ≠ some i).map fun i =>
          stream (r.taken + i) := by
  have earlier : (List.range r.taken).filter (· ∉ (r.after c done).gaps) =
      (List.range r.taken).filter (· ∉ r.gaps) := by
    apply List.filter_congr
    intro place inside
    have ahead := List.mem_range.mp inside
    have same : place ∈ (r.after c done).gaps ↔ place ∈ r.gaps := by
      rw [mem_gaps_after]
      constructor
      · rintro (old | ⟨i, _, here⟩)
        · exact old
        · omega
      · exact Or.inl
    simp only [same]
  have later : ((List.range done.accesses.length).map (r.taken + ·)).filter
      (· ∉ (r.after c done).gaps) =
      ((List.range done.accesses.length).filter fun i =>
        firstFault c.faults c.buffer done.accesses.length ≠ some i).map (r.taken + ·) := by
    rw [List.filter_map]
    congr 1
    apply List.filter_congr
    intro i _
    have same : r.taken + i ∈ (r.after c done).gaps ↔
        firstFault c.faults c.buffer done.accesses.length = some i := by
      rw [mem_gaps_after]
      constructor
      · rintro (old | ⟨first, found, here⟩)
        · have := before.behind (r.taken + i) old
          omega
        · obtain rfl : first = i := by omega
          exact found
      · exact fun found => Or.inr ⟨i, found, rfl⟩
    simp only [Function.comp_apply, same, ne_eq]
  have taken : (r.after c done).taken = r.taken + done.accesses.length := rfl
  rw [taken, List.range_add, List.filter_append, List.map_append, earlier, later, List.map_map,
    ← before.inOrder]
  rfl

theorem StreamInv.inOrder_iff (before : StreamInv stream r)
    (accessed : done.accesses.length = c.length)
    (passed : done.user = (List.range c.length).map fun i => stream (r.taken + i)) :
    (r.after c done).InOrder stream ↔ AtMostOneFault c.faults c.buffer c.length := by
  rw [StreamState.InOrder, before.expected_after, accessed, StreamState.after, ReadCall.stores,
    passed, List.append_cancel_left_eq]
  exact copyOut_gap_iff c.buffer (fun i => stream (r.taken + i)) c.length

theorem StreamInv.kept (before : StreamInv stream r) (inOrder : (r.after c done).InOrder stream) :
    StreamInv stream (r.after c done) := by
  refine ⟨inOrder, ?_⟩
  intro gap member
  change gap < r.taken + done.accesses.length
  rcases (mem_gaps_after r c done gap).mp member with old | ⟨i, found, here⟩
  · have := before.behind gap old
    omega
  · have := (firstFault_faults found).1
    omega

theorem readExact_iff (before : StreamInv stream r) (c : ReadCall) :
    ReadExact pci d stream r c ↔ c.Writable := by
  obtain ⟨done, returned, counted, accessed, passed⟩ := readNext_yields pci d stream r c
  have length : done.user.length = c.length := by
    rw [passed, List.length_map, List.length_range]
  constructor
  · rintro ⟨other, outcome, counts, _⟩
    obtain rfl := Except.ok.inj (returned.symm.trans outcome)
    exact (counts_stores_iff counted length).mp counts
  · intro writable
    refine ⟨done, returned, (counts_stores_iff counted length).mpr writable,
      Or.inl (accessed.trans counted.symm), (before.inOrder_iff accessed passed).mpr ?_⟩
    intro i inside _ _ fault _
    exact absurd (fault.symm.trans (writable i inside)) (by simp)

theorem readExact_but_first (sound : ReadExact pci d stream r c) :
    ReadExactButFirst pci d stream r c := by
  obtain ⟨done, returned, counts, taken, inOrder⟩ := sound
  exact ⟨done, returned, Or.inl counts, taken, inOrder⟩

theorem readExactButFirst_iff (before : StreamInv stream r) (c : ReadCall) :
    ReadExactButFirst pci d stream r c ↔ AtMostOneFault c.faults c.buffer c.length := by
  obtain ⟨done, returned, counted, accessed, passed⟩ := readNext_yields pci d stream r c
  have inOrder := before.inOrder_iff accessed passed
  constructor
  · rintro ⟨other, outcome, _, _, ordered⟩
    obtain rfl := Except.ok.inj (returned.symm.trans outcome)
    exact inOrder.mp ordered
  · intro once
    refine ⟨done, returned, ?_, Or.inl (accessed.trans counted.symm), inOrder.mpr once⟩
    unfold CountedStored ReadCall.stores
    rw [counted, accessed, passed]
    rcases once.length_copyOut fun i => stream (r.taken + i) with whole | ⟨fault, missing⟩
    · exact Or.inl whole.symm
    · exact Or.inr ⟨missing.symm, fault⟩

end Read

/-! ## Sequences of reads -/

section Runs
variable {Dev : Type} (pci : Dev → PciDev) (d : Dev) (stream : Nat → BitVec 8)

theorem streamStep_total (r : StreamState) (c : ReadCall) :
    ∃ after, streamStep pci d stream r c = some after := by
  obtain ⟨done, returned, _⟩ := readNext_yields pci d stream r c
  exact ⟨r.after c done, by rw [streamStep, returned]⟩

variable {pci d stream}

theorem StreamInv.step {r after : StreamState} {c : ReadCall} (before : StreamInv stream r)
    (sound : ReadExactButFirst pci d stream r c) (taken : streamStep pci d stream r c = some after) :
    StreamInv stream after := by
  obtain ⟨done, returned, _, _, inOrder⟩ := sound
  rw [streamStep, returned] at taken
  obtain rfl := Option.some.inj taken
  exact before.kept inOrder

variable (pci d stream)

/-- Over any sequence of reads: all are exact exactly when no user address faults, and exact
but for a byte counted at a first fault exactly when no read meets a second. -/
theorem reads_exact_iff_writable (calls : List ReadCall) :
    (Each (streamStep pci d stream) (ReadExact pci d stream) .start calls ↔
      ∀ c ∈ calls, c.Writable) ∧
    (Each (streamStep pci d stream) (ReadExactButFirst pci d stream) .start calls ↔
      ∀ c ∈ calls, AtMostOneFault c.faults c.buffer c.length) := by
  have always : Each (streamStep pci d stream) (fun _ _ => True) .start calls := each_trivial _ calls
  constructor
  · rw [← each_iff_forall (streamStep_total pci d stream) .start calls]
    refine each_iff_each (fun r c before _ => readExact_iff before c) ?_ (.start stream) always
    intro r c after before _ writable taken
    exact before.step (readExact_but_first ((readExact_iff before c).mpr writable)) taken
  · rw [← each_iff_forall (streamStep_total pci d stream) .start calls]
    refine each_iff_each (fun r c before _ => readExactButFirst_iff before c) ?_ (.start stream) always
    intro r c after before _ once taken
    exact before.step ((readExactButFirst_iff before c).mpr once) taken

/-- Nothing of the buffer can be written, and the read returns as if everything had been. -/
theorem unstored_bytes_counted :
    ¬ ∀ (pci : Nat → PciDev) (d : Nat) (stream : Nat → BitVec 8) (calls : List ReadCall),
      Each (streamStep pci d stream) (ReadExact pci d stream) .start calls := by
  intro claim
  obtain ⟨done, returned, counts, _⟩ :=
    (claim (fun _ => sampleCard) 0 (BitVec.ofNat 8) [⟨2, 4096, fun _ => true⟩]).1
  obtain rfl := Except.ok.inj (returned.symm.trans
    (show _ = Except.ok ⟨2, [.inb 0xc001, .inb 0xc001], [0, 1]⟩ by decide +kernel))
  exact absurd counts (by decide +kernel)

end Runs

end LddLearn.Pcidev01
