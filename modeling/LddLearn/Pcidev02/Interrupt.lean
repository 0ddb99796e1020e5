import LddLearn.Library.Run
import LddLearn.Ssxa.Context
import Mathlib.Data.List.FinRange

/-!
# Interrupt handler and tasklet

`pci_irq.c`: `pci_sscrypt_dev_interrupt` reads the status port, clears it and
schedules `pci_do_tasklet`, which frees every returned cell and wakes its waiter.
Here both are split into the steps between which the device and the callers of the
driver may act. The device stores `TAG_RETURNED` in a cell with a submitted request
first and raises its status for it later; a cell is not given a new request while
its tag is `TAG_RETURNED`. The handler and the tasklet each run one at a time; a
tasklet's scheduled bit is cleared before it starts and may be set again while it
runs.

The counters of a cell and `unsignalled` are bookkeeping of the model.
-/

set_option autoImplicit false

namespace LddLearn.Pcidev02.Interrupt
open LddLearn.Library.Run LddLearn.Ssxa

structure Cell where
  tag : BitVec 32
  waitcond : Int
  completions : Nat
  /-- `TAG_FREE` stores of the tasklet -/
  acknowledgements : Nat
  wakeUps : Nat
  deriving DecidableEq, Repr

/-- The next step of the handler. -/
inductive Handler where
  | idle
  | clear
  | schedule
  deriving DecidableEq, Repr

/-- The next step of the tasklet, with the loop's index. -/
inductive Tasklet (n : Nat) where
  | idle
  | scan (index : Nat)
  | acknowledge (index : Fin n)
  | wake (index : Fin n)
  deriving DecidableEq, Repr

structure State (n : Nat) where
  cells : Fin n → Cell
  /-- completions the device has not raised its status for yet -/
  unsignalled : Nat
  sport : BitVec 8
  handler : Handler
  scheduled : Bool
  tasklet : Tasklet n

def Cell.free : Cell := ⟨TAG_FREE, 0, 0, 0, 0⟩

def State.start (n : Nat) : State n where
  cells := fun _ => .free
  unsignalled := 0
  sport := 0
  handler := .idle
  scheduled := false
  tasklet := .idle

inductive Action (n : Nat) where
  /-- a caller puts a request into a cell -/
  | submit (index : Fin n)
  /-- the device answers the request of a cell -/
  | complete (index : Fin n)
  /-- the device raises its status for some of its completions -/
  | raise (signals : Nat) (level : BitVec 8)
  | readStatus
  | clearStatus
  | schedule
  | start
  | scan
  | acknowledge
  | wake
  deriving DecidableEq, Repr

variable {n : Nat}

def State.setCell (s : State n) (index : Fin n) (cell : Cell) : State n :=
  { s with cells := Function.update s.cells index cell }

def Cell.submit (cell : Cell) : Cell := { cell with tag := TAG_WRITE }

def Cell.complete (cell : Cell) : Cell :=
  { cell with tag := TAG_RETURNED, completions := cell.completions + 1 }

/-- `iowrite32(TAG_FREE, tag)` -/
def Cell.acknowledge (cell : Cell) : Cell :=
  { cell with tag := TAG_FREE, acknowledgements := cell.acknowledgements + 1 }

/-- `waitcond = 1` and `wake_up_interruptible` -/
def Cell.wake (cell : Cell) : Cell :=
  { cell with waitcond := 1, wakeUps := cell.wakeUps + 1 }

def step (s : State n) : Action n → Option (State n)
  | .submit index =>
    if (s.cells index).tag = TAG_RETURNED then none
    else some (s.setCell index (s.cells index).submit)
  | .complete index =>
    if (s.cells index).tag = TAG_WRITE then
      some { s.setCell index (s.cells index).complete with unsignalled := s.unsignalled + 1 }
    else none
  | .raise signals level =>
    if signals ≤ s.unsignalled ∧ level ≠ 0 then
      some { s with sport := level, unsignalled := s.unsignalled - signals }
    else none
  | .readStatus =>
    if s.handler = .idle then
      -- a low status is another device's interrupt
      if s.sport = 0 then some s else some { s with handler := .clear }
    else none
  | .clearStatus =>
    if s.handler = .clear then some { s with sport := 0, handler := .schedule } else none
  | .schedule =>
    if s.handler = .schedule then some { s with scheduled := true, handler := .idle } else none
  | .start =>
    if s.tasklet = .idle ∧ s.scheduled = true then
      some { s with scheduled := false, tasklet := .scan 0 }
    else none
  | .scan =>
    match s.tasklet with
    | .scan index =>
      if inside : index < n then
        if (s.cells ⟨index, inside⟩).tag = TAG_RETURNED then
          some { s with tasklet := .acknowledge ⟨index, inside⟩ }
        else some { s with tasklet := .scan (index + 1) }
      else some { s with tasklet := .idle }
    | _ => none
  | .acknowledge =>
    match s.tasklet with
    | .acknowledge index =>
      some { s.setCell index (s.cells index).acknowledge with tasklet := .wake index }
    | _ => none
  | .wake =>
    match s.tasklet with
    | .wake index =>
      some { s.setCell index (s.cells index).wake with tasklet := .scan (index + 1) }
    | _ => none

/-! ## The functions run through -/

inductive IrqReturn where
  | irqNone
  | irqHandled
  deriving DecidableEq, Repr

/-- `pci_sscrypt_dev_interrupt` with nothing happening in between. -/
def pciSscryptDevInterrupt (s : State n) : IrqReturn × State n :=
  if s.sport = 0 then (.irqNone, s) else (.irqHandled, { s with sport := 0, scheduled := true })

/-- The body of `pci_do_tasklet`'s loop. -/
def serviceCell (cells : Fin n → Cell) (index : Fin n) : Fin n → Cell :=
  if (cells index).tag = TAG_RETURNED then
    Function.update cells index (cells index).acknowledge.wake
  else cells

def pciDoTasklet (cells : Fin n → Cell) : Fin n → Cell :=
  (List.finRange n).foldl serviceCell cells

theorem handler_steps (s : State n) (idle : s.handler = .idle) (raised : s.sport ≠ 0) :
    run step s [.readStatus, .clearStatus, .schedule] = some (pciSscryptDevInterrupt s).2 := by
  rw [pciSscryptDevInterrupt, if_neg raised, run_cons, step, if_pos idle, if_neg raised]
  simp only [Option.bind_some, run_cons, run_nil, step, if_true, idle]

/-- One round of the loop. -/
theorem tasklet_round (s : State n) {index : Nat} (inside : index < n)
    (running : s.tasklet = .scan index) :
    ∃ actions, run step s actions = some { s with
      cells := serviceCell s.cells ⟨index, inside⟩
      tasklet := .scan (index + 1) } := by
  unfold serviceCell
  by_cases returned : (s.cells ⟨index, inside⟩).tag = TAG_RETURNED
  · refine ⟨[.scan, .acknowledge, .wake], ?_⟩
    rw [if_pos returned, run_cons, step, running]
    simp only [dif_pos inside, if_pos returned, Option.bind_some, run_cons, run_nil, step,
      State.setCell, Function.update_self, Function.update_idem]
  · refine ⟨[.scan], ?_⟩
    rw [if_neg returned, run_cons, step, running]
    simp only [dif_pos inside, if_neg returned, Option.bind_some, run_nil]

theorem tasklet_rounds (s : State n) (left index : Nat) (running : s.tasklet = .scan index)
    (distance : index + left = n) :
    ∃ actions, run step s actions = some { s with
      cells := ((List.finRange n).drop index).foldl serviceCell s.cells
      tasklet := .idle } := by
  induction left generalizing s index with
  | zero =>
    refine ⟨[.scan], ?_⟩
    have past : ¬ index < n := by omega
    have done : (List.finRange n).drop index = [] :=
      List.drop_eq_nil_of_le (by rw [List.length_finRange]; omega)
    rw [done, run_cons, step, running]
    simp only [dif_neg past, Option.bind_some, run_nil, List.foldl_nil]
  | succ left ih =>
    have inside : index < n := by omega
    obtain ⟨first, round⟩ := tasklet_round s inside running
    obtain ⟨later, rounds⟩ := ih
      { s with cells := serviceCell s.cells ⟨index, inside⟩, tasklet := .scan (index + 1) }
      (index + 1) rfl (by omega)
    have next : (List.finRange n).drop index =
        ⟨index, inside⟩ :: (List.finRange n).drop (index + 1) := by
      rw [List.drop_eq_getElem_cons (by rw [List.length_finRange]; exact inside),
        List.getElem_finRange]
      rfl
    refine ⟨first ++ later, ?_⟩
    rw [run_append, round, Option.bind_some, rounds, next, List.foldl_cons]

/-- The tasklet's steps with nothing in between are `pci_do_tasklet`. -/
theorem tasklet_steps (s : State n) (idle : s.tasklet = .idle) (scheduled : s.scheduled = true) :
    ∃ actions, run step s actions =
      some { s with cells := pciDoTasklet s.cells, scheduled := false } := by
  obtain ⟨actions, rounds⟩ :=
    tasklet_rounds { s with scheduled := false, tasklet := .scan 0 } n 0 rfl (Nat.zero_add n)
  refine ⟨.start :: actions, ?_⟩
  rw [run_cons, step, if_pos ⟨idle, scheduled⟩, Option.bind_some, rounds, List.drop_zero, ← idle]
  rfl

/-! ## Where a returned cell is known -/

/-- The running tasklet will still scan the cell. -/
def Tasklet.Reaches (index : Fin n) : Tasklet n → Prop
  | .idle => False
  | .scan next => next ≤ index.val
  | .acknowledge current => current ≤ index
  | .wake current => current < index

/-- Something is left to happen that leads to a scan of the cell. -/
def Located (s : State n) (index : Fin n) : Prop :=
  0 < s.unsignalled ∨ s.sport ≠ 0 ∨ s.handler = .schedule ∨ s.scheduled = true ∨
    s.tasklet.Reaches index

/-- The completions of a cell are those acknowledged and the one in its tag; every
acknowledgement is followed by its wake-up. -/
structure CellInv (s : State n) (index : Fin n) : Prop where
  located : (s.cells index).tag = TAG_RETURNED → Located s index
  completions : (s.cells index).completions = (s.cells index).acknowledgements +
    if (s.cells index).tag = TAG_RETURNED then 1 else 0
  wakeUps : (s.cells index).acknowledgements = (s.cells index).wakeUps +
    if s.tasklet = .wake index then 1 else 0
  acknowledges : s.tasklet = .acknowledge index → (s.cells index).tag = TAG_RETURNED

def IrqInv (s : State n) : Prop := ∀ index, CellInv s index

variable {s t : State n}

theorem irqInv_start (n : Nat) : IrqInv (State.start n) := by
  intro index
  have free : TAG_FREE ≠ TAG_RETURNED := by decide
  refine ⟨fun returned => absurd returned free, ?_, rfl, fun running => by simp [State.start] at running⟩
  simp [State.start, Cell.free, free]

/-- A cell nobody touches, still located if it was. -/
theorem CellInv.of_same {index : Fin n} (before : CellInv s index)
    (cell : t.cells index = s.cells index)
    (wake : t.tasklet = .wake index ↔ s.tasklet = .wake index)
    (acknowledge : t.tasklet = .acknowledge index → s.tasklet = .acknowledge index)
    (located : Located s index → Located t index) : CellInv t index := by
  refine ⟨?_, ?_, ?_, ?_⟩
  · rw [cell]
    exact fun returned => located (before.located returned)
  · rw [cell]
    exact before.completions
  · simp only [cell, wake]
    exact before.wakeUps
  · rw [cell]
    exact fun running => before.acknowledges (acknowledge running)

/-- A cell with a new content. -/
theorem CellInv.of_cell {index : Fin n} {cell : Cell} (here : t.cells index = cell)
    (located : cell.tag = TAG_RETURNED → Located t index)
    (completions : cell.completions = cell.acknowledgements +
      if cell.tag = TAG_RETURNED then 1 else 0)
    (wakeUps : cell.acknowledgements = cell.wakeUps + if t.tasklet = .wake index then 1 else 0)
    (acknowledges : t.tasklet = .acknowledge index → cell.tag = TAG_RETURNED) :
    CellInv t index := by
  subst here
  exact ⟨located, completions, wakeUps, acknowledges⟩

/-- A step of the tasklet that still reaches the cell leaves it located. -/
theorem Located.moves {index : Fin n} (located : Located s index)
    (signal : t.unsignalled = s.unsignalled) (sport : t.sport = s.sport)
    (handler : t.handler = s.handler) (scheduled : t.scheduled = s.scheduled)
    (reaches : s.tasklet.Reaches index → t.tasklet.Reaches index) : Located t index := by
  unfold Located at located ⊢
  rw [signal, sport, handler, scheduled]
  rcases located with owed | raised | scheduling | pending | running
  · exact Or.inl owed
  · exact Or.inr (Or.inl raised)
  · exact Or.inr (Or.inr (Or.inl scheduling))
  · exact Or.inr (Or.inr (Or.inr (Or.inl pending)))
  · exact Or.inr (Or.inr (Or.inr (Or.inr (reaches running))))

theorem tag_write_ne_returned : TAG_WRITE ≠ TAG_RETURNED := by decide

theorem tag_free_ne_returned : TAG_FREE ≠ TAG_RETURNED := by decide

theorem setCell_other {index other : Fin n} (cell : Cell) (different : other ≠ index) :
    (s.setCell index cell).cells other = s.cells other :=
  Function.update_of_ne different _ _

theorem setCell_same (s : State n) (index : Fin n) (cell : Cell) :
    (s.setCell index cell).cells index = cell :=
  Function.update_self ..

/-! ## Callers and device -/

theorem IrqInv.submit (before : IrqInv s) {index : Fin n}
    (free : (s.cells index).tag ≠ TAG_RETURNED) :
    IrqInv (s.setCell index (s.cells index).submit) := by
  intro other
  by_cases same : other = index
  · subst same
    have invariant := before other
    refine .of_cell (setCell_same s other _)
      (fun returned => absurd returned tag_write_ne_returned) ?_ invariant.wakeUps
      (fun running => absurd (invariant.acknowledges running) free)
    have completions := invariant.completions
    rw [if_neg free] at completions
    simp only [Cell.submit]
    exact completions
  · exact (before other).of_same (setCell_other _ same) Iff.rfl id id

/-- A completion is located by the signal it still owes. -/
theorem IrqInv.complete (before : IrqInv s) {index : Fin n}
    (submitted : (s.cells index).tag = TAG_WRITE) :
    IrqInv { s.setCell index (s.cells index).complete with unsignalled := s.unsignalled + 1 } := by
  intro other
  have located : Located
      { s.setCell index (s.cells index).complete with unsignalled := s.unsignalled + 1 } other :=
    Or.inl (Nat.succ_pos _)
  by_cases same : other = index
  · subst same
    have invariant := before other
    refine .of_cell (setCell_same s other _) (fun _ => located) ?_ invariant.wakeUps
      (fun _ => rfl)
    have completions := invariant.completions
    rw [submitted, if_neg tag_write_ne_returned] at completions
    simp only [Cell.complete, if_true]
    omega
  · exact (before other).of_same (setCell_other _ same) Iff.rfl id fun _ => located

/-! ## Handler -/

theorem IrqInv.readStatus (before : IrqInv s) (idle : s.handler = .idle) :
    IrqInv { s with handler := .clear } := by
  intro index
  refine (before index).of_same rfl Iff.rfl id ?_
  rintro (signal | raised | scheduling | scheduled | running)
  · exact Or.inl signal
  · exact Or.inr (Or.inl raised)
  · rw [idle] at scheduling
    exact absurd scheduling (by simp)
  · exact Or.inr (Or.inr (Or.inr (Or.inl scheduled)))
  · exact Or.inr (Or.inr (Or.inr (Or.inr running)))

/-! ## Tasklet -/

/-- The tasklet moves on from one place to the next without touching a cell. -/
theorem IrqInv.move (before : IrqInv s) {next : Tasklet n}
    (wakes : ∀ index, next ≠ .wake index) (woke : ∀ index, s.tasklet ≠ .wake index)
    (acknowledges : ∀ index, next = .acknowledge index → (s.cells index).tag = TAG_RETURNED)
    (reaches : ∀ index, (s.cells index).tag = TAG_RETURNED → s.tasklet.Reaches index →
      next.Reaches index) : IrqInv { s with tasklet := next } := by
  intro index
  have invariant := before index
  refine ⟨?_, invariant.completions, ?_, acknowledges index⟩
  · intro returned
    exact (invariant.located returned).moves rfl rfl rfl rfl (reaches index returned)
  · have wakeUps := invariant.wakeUps
    rw [if_neg (woke index)] at wakeUps
    rw [if_neg (wakes index)]
    exact wakeUps

/-- Starting clears the scheduled bit, and the loop is still before every cell. -/
theorem IrqInv.start (before : IrqInv s) (idle : s.tasklet = .idle) :
    IrqInv { s with scheduled := false, tasklet := .scan 0 } := by
  intro index
  refine (before index).of_same rfl ?_ ?_ ?_
  · simp [idle]
  · intro running
    simp at running
  · intro _
    exact Or.inr (Or.inr (Or.inr (Or.inr (Nat.zero_le _))))

theorem IrqInv.acknowledge (before : IrqInv s) {index : Fin n}
    (running : s.tasklet = .acknowledge index) :
    IrqInv { s.setCell index (s.cells index).acknowledge with tasklet := .wake index } := by
  intro other
  by_cases same : other = index
  · subst same
    have invariant := before other
    refine .of_cell (setCell_same s other _)
      (fun again => absurd again tag_free_ne_returned) ?_ ?_ (fun impossible => by simp at impossible)
    · have completions := invariant.completions
      rw [if_pos (invariant.acknowledges running)] at completions
      simp only [Cell.acknowledge]
      exact completions
    · have wakeUps := invariant.wakeUps
      rw [running, if_neg (by simp)] at wakeUps
      simp only [Cell.acknowledge, if_true]
      omega
  · refine (before other).of_same (setCell_other _ same) ?_ ?_ ?_
    · rw [running]
      simp [Ne.symm same]
    · intro impossible
      simp at impossible
    · intro located
      refine located.moves rfl rfl rfl rfl ?_
      intro reaches
      rw [running] at reaches
      exact lt_of_le_of_ne reaches (Ne.symm same)

theorem IrqInv.wake (before : IrqInv s) {index : Fin n} (running : s.tasklet = .wake index) :
    IrqInv { s.setCell index (s.cells index).wake with tasklet := .scan (index + 1) } := by
  intro other
  have invariant := before other
  have located : Located s other → Located
      { s.setCell index (s.cells index).wake with tasklet := .scan (index + 1) } other := by
    intro located
    refine located.moves rfl rfl rfl rfl ?_
    intro reaches
    rw [running] at reaches
    exact Nat.succ_le_of_lt reaches
  by_cases same : other = index
  · subst same
    refine .of_cell (setCell_same s other _) (fun returned => located (invariant.located returned))
      invariant.completions ?_ (fun impossible => by simp at impossible)
    have wakeUps := invariant.wakeUps
    rw [if_pos running] at wakeUps
    simp only [Cell.wake]
    rw [if_neg (by simp)]
    exact wakeUps
  · refine invariant.of_same (setCell_other _ same) ?_ ?_ located
    · rw [running]
      simp [Ne.symm same]
    · intro impossible
      simp at impossible

theorem IrqInv.scan (before : IrqInv s) (taken : step s .scan = some t) : IrqInv t := by
  unfold step at taken
  cases running : s.tasklet with
  | idle => simp [running] at taken
  | acknowledge index => simp [running] at taken
  | wake index => simp [running] at taken
  | scan index =>
    have woke : ∀ other, s.tasklet ≠ .wake other := by simp [running]
    simp only [running] at taken
    by_cases inside : index < n
    · rw [dif_pos inside] at taken
      by_cases returned : (s.cells ⟨index, inside⟩).tag = TAG_RETURNED
      · rw [if_pos returned] at taken
        obtain rfl := Option.some.inj taken
        refine before.move (by simp) woke ?_ ?_
        · intro other same
          obtain rfl := Tasklet.acknowledge.inj same
          exact returned
        · intro other _ reaches
          rw [running] at reaches
          exact reaches
      · rw [if_neg returned] at taken
        obtain rfl := Option.some.inj taken
        refine before.move (by simp) woke (by simp) ?_
        intro other otherReturned reaches
        rw [running] at reaches
        have below : index ≤ other.val := reaches
        have different : index ≠ other.val := by
          intro same
          subst same
          exact returned otherReturned
        exact Nat.succ_le_of_lt (Nat.lt_of_le_of_ne below different)
    · rw [dif_neg inside] at taken
      obtain rfl := Option.some.inj taken
      refine before.move (by simp) woke (by simp) ?_
      intro other _ reaches
      rw [running] at reaches
      have below : index ≤ other.val := reaches
      have := other.isLt
      omega

/-! ## Runs -/

theorem IrqInv.kept (before : IrqInv s) (a : Action n) (taken : step s a = some t) : IrqInv t := by
  cases a with
  | submit index =>
    by_cases returned : (s.cells index).tag = TAG_RETURNED
    · simp [step, returned] at taken
    · obtain rfl := Option.some.inj ((if_neg returned).symm.trans taken)
      exact before.submit returned
  | complete index =>
    by_cases submitted : (s.cells index).tag = TAG_WRITE
    · obtain rfl := Option.some.inj ((if_pos submitted).symm.trans taken)
      exact before.complete submitted
    · simp [step, submitted] at taken
  | raise signals level =>
    by_cases raises : signals ≤ s.unsignalled ∧ level ≠ 0
    · obtain rfl := Option.some.inj ((if_pos raises).symm.trans taken)
      exact fun index => (before index).of_same rfl Iff.rfl id fun _ => Or.inr (Or.inl raises.2)
    · exact absurd ((if_neg raises).symm.trans taken) (by simp)
  | readStatus =>
    by_cases idle : s.handler = .idle
    · have read := (if_pos idle).symm.trans taken
      by_cases low : s.sport = 0
      · obtain rfl := Option.some.inj ((if_pos low).symm.trans read)
        exact before
      · obtain rfl := Option.some.inj ((if_neg low).symm.trans read)
        exact before.readStatus idle
    · exact absurd ((if_neg idle).symm.trans taken) (by simp)
  | clearStatus =>
    by_cases clear : s.handler = .clear
    · obtain rfl := Option.some.inj ((if_pos clear).symm.trans taken)
      exact fun index =>
        (before index).of_same rfl Iff.rfl id fun _ => Or.inr (Or.inr (Or.inl rfl))
    · exact absurd ((if_neg clear).symm.trans taken) (by simp)
  | schedule =>
    by_cases scheduling : s.handler = .schedule
    · obtain rfl := Option.some.inj ((if_pos scheduling).symm.trans taken)
      exact fun index =>
        (before index).of_same rfl Iff.rfl id fun _ => Or.inr (Or.inr (Or.inr (Or.inl rfl)))
    · exact absurd ((if_neg scheduling).symm.trans taken) (by simp)
  | start =>
    by_cases may : s.tasklet = .idle ∧ s.scheduled = true
    · obtain rfl := Option.some.inj ((if_pos may).symm.trans taken)
      exact before.start may.1
    · exact absurd ((if_neg may).symm.trans taken) (by simp)
  | scan => exact before.scan taken
  | acknowledge =>
    cases running : s.tasklet with
    | acknowledge index =>
      simp only [step, running] at taken
      obtain rfl := Option.some.inj taken
      exact before.acknowledge running
    | _ => simp [step, running] at taken
  | wake =>
    cases running : s.tasklet with
    | wake index =>
      simp only [step, running] at taken
      obtain rfl := Option.some.inj taken
      exact before.wake running
    | _ => simp [step, running] at taken

/-- Status low, handler and tasklet at rest, and no signal owed by the device. -/
structure Quiescent (s : State n) : Prop where
  status : s.sport = 0
  handler : s.handler = .idle
  scheduled : s.scheduled = false
  tasklet : s.tasklet = .idle
  signalled : s.unsignalled = 0

/-- In every state reached, whatever the interleaving: no completion has been acknowledged
twice; at rest every completion has been acknowledged and its waiter woken; and an
interrupt that finds the status low changes nothing. -/
theorem no_completion_lost {actions : List (Action n)}
    (reached : run step (State.start n) actions = some s) :
    (∀ index, (s.cells index).acknowledgements ≤ (s.cells index).completions) ∧
    (Quiescent s → ∀ index, (s.cells index).tag ≠ TAG_RETURNED ∧
      (s.cells index).wakeUps = (s.cells index).completions) ∧
    (s.handler = .idle → s.sport = 0 → step s .readStatus = some s) := by
  have invariant : IrqInv s :=
    run_preserves (fun s a t before taken => before.kept a taken) (irqInv_start n) reached
  refine ⟨?_, ?_, ?_⟩
  · intro index
    have := (invariant index).completions
    omega
  · intro quiet index
    have notReturned : (s.cells index).tag ≠ TAG_RETURNED := by
      intro returned
      rcases (invariant index).located returned with
        signal | raised | scheduling | scheduled | running
      · have := quiet.signalled
        omega
      · exact raised quiet.status
      · rw [quiet.handler] at scheduling
        exact absurd scheduling (by simp)
      · rw [quiet.scheduled] at scheduled
        exact absurd scheduled (by simp)
      · rw [quiet.tasklet] at running
        exact running
    have completions := (invariant index).completions
    have wakeUps := (invariant index).wakeUps
    rw [if_neg notReturned] at completions
    rw [quiet.tasklet, if_neg (by simp)] at wakeUps
    exact ⟨notReturned, by omega⟩
  · intro idle low
    rw [step, if_pos idle, if_pos low]

/-- The second cell completes behind the handler's status read, the first once more
behind the loop index, and its interrupt schedules the running tasklet again. -/
def twoCells : List (Action 2) :=
  [.submit 0, .submit 1, .complete 0, .raise 1 1, .readStatus, .complete 1, .clearStatus,
    .schedule, .start, .scan, .acknowledge, .wake, .submit 0, .complete 0, .raise 2 1, .readStatus,
    .clearStatus, .schedule, .scan, .acknowledge, .wake, .scan, .start, .scan, .acknowledge,
    .wake, .scan, .scan]

theorem no_completion_lost_two_cells :
    ∃ s, run step (State.start 2) twoCells = some s ∧ Quiescent s ∧
      (∀ index, (s.cells index).acknowledgements ≤ (s.cells index).completions) ∧
      (Quiescent s → ∀ index, (s.cells index).tag ≠ TAG_RETURNED ∧
        (s.cells index).wakeUps = (s.cells index).completions) ∧
      (s.handler = .idle → s.sport = 0 → step s .readStatus = some s) :=
  ⟨_, rfl, ⟨rfl, rfl, rfl, rfl, rfl⟩,
    no_completion_lost (show run step (State.start 2) twoCells = some _ from rfl)⟩

end LddLearn.Pcidev02.Interrupt
