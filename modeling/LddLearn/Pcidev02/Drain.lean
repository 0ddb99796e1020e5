import LddLearn.Pcidev02.Interrupt

/-!
# The driver drains its interrupts

What `pci_irq.c` still has to do can be counted: the steps of the running pass over the cells,
those of the pass that is scheduled, and those of the handler for a raised status. Each step of
the driver takes one from the count, but for reads of a status that is low, which do nothing. So
once no completion and no signal is added the driver comes to rest, whatever the order of its
steps, and it leaves no completion behind. On a shared interrupt line it does so for each device
whatever goes on at the others.
-/

set_option autoImplicit false

namespace LddLearn.Pcidev02.Interrupt
open LddLearn.Library LddLearn.Library.Run LddLearn.Ssxa

variable {n : Nat} {s t : State n}

/-! ## Steps of the driver -/

/-- A step of handler or tasklet. -/
def DriverActs : Action n → Prop
  | .submit _ | .complete _ | .raise _ _ => False
  | .readStatus | .clearStatus | .schedule | .start | .scan | .acknowledge | .wake => True

instance : DecidablePred (DriverActs (n := n))
  | .submit _ | .complete _ | .raise _ _ => isFalse id
  | .readStatus | .clearStatus | .schedule | .start | .scan | .acknowledge | .wake => isTrue trivial

/-- The handler is called for every device on its line, so that its reads of the status are not
counted; one that finds it raised is followed by the clearing. -/
def driverSteps : Action n → Nat
  | .readStatus => 0
  | _ => 1

/-- No step of the driver changes anything. -/
def AtRest (s : State n) : Prop := ∀ a, DriverActs a → ∀ t ∈ step s a, t = s

/-- The steps of a pass over the cells, its start included. -/
def passSteps (n : Nat) : Nat := 3 * n + 2

def Tasklet.stepsLeft : Tasklet n → Nat
  | .idle => 0
  | .scan index => 3 * (n - index) + 1
  | .acknowledge index => 3 * (n - index.val)
  | .wake index => 3 * (n - index.val) - 1

/-- A status that was raised behind the handler's read is lowered with the one read. -/
def handlerSteps (n : Nat) (raised : Prop) [Decidable raised] : Handler → Nat
  | .idle => if raised then passSteps n + 3 else 0
  | .clear => passSteps n + 2
  | .schedule => passSteps n + 1 + if raised then passSteps n + 3 else 0

def State.stepsLeft (s : State n) : Nat :=
  s.tasklet.stepsLeft + (if s.scheduled = true then passSteps n else 0) +
    handlerSteps n (s.sport ≠ 0) s.handler

theorem tasklet_stepsLeft_le (tasklet : Tasklet n) : tasklet.stepsLeft ≤ 3 * n + 1 := by
  cases tasklet with
  | idle => exact Nat.zero_le _
  | scan index =>
    simp only [Tasklet.stepsLeft]
    omega
  | acknowledge index =>
    simp only [Tasklet.stepsLeft]
    omega
  | wake index =>
    simp only [Tasklet.stepsLeft]
    omega

theorem handlerSteps_le (n : Nat) (raised : Prop) [Decidable raised] (handler : Handler) :
    handlerSteps n raised handler ≤ 6 * n + 8 := by
  have due : (if raised then passSteps n + 3 else 0) ≤ 3 * n + 5 := by
    split
    · exact le_refl _
    · exact Nat.zero_le _
  cases handler with
  | idle =>
    simp only [handlerSteps]
    omega
  | clear =>
    simp only [handlerSteps, passSteps]
    omega
  | schedule =>
    simp only [handlerSteps, passSteps] at due ⊢
    omega

/-- At most a pass runs, a pass is scheduled, a handler schedules and another one is due. -/
theorem stepsLeft_le (s : State n) : s.stepsLeft ≤ 12 * n + 11 := by
  have tasklet := tasklet_stepsLeft_le s.tasklet
  have handler := handlerSteps_le n (s.sport ≠ 0) s.handler
  unfold State.stepsLeft
  split
  · unfold passSteps
    omega
  · omega

/-- What a step of the driver can do. -/
inductive DriverStep (s : State n) : Action n → State n → Prop
  | low : DriverStep s .readStatus s
  | raised (idle : s.handler = .idle) (high : s.sport ≠ 0) :
      DriverStep s .readStatus { s with handler := .clear }
  | cleared (clear : s.handler = .clear) :
      DriverStep s .clearStatus { s with sport := 0, handler := .schedule }
  | scheduled (scheduling : s.handler = .schedule) :
      DriverStep s .schedule { s with scheduled := true, handler := .idle }
  | started (idle : s.tasklet = .idle) (due : s.scheduled = true) :
      DriverStep s .start { s with scheduled := false, tasklet := .scan 0 }
  | returned {index : Fin n} (running : s.tasklet = .scan index) :
      DriverStep s .scan { s with tasklet := .acknowledge index }
  | passed {index : Fin n} (running : s.tasklet = .scan index) :
      DriverStep s .scan { s with tasklet := .scan (index + 1) }
  | ended {index : Nat} (running : s.tasklet = .scan index) :
      DriverStep s .scan { s with tasklet := .idle }
  | acknowledged {index : Fin n} (running : s.tasklet = .acknowledge index) :
      DriverStep s .acknowledge
        { s.setCell index (s.cells index).acknowledge with tasklet := .wake index }
  | woken {index : Fin n} (running : s.tasklet = .wake index) :
      DriverStep s .wake { s.setCell index (s.cells index).wake with tasklet := .scan (index + 1) }

theorem scan_step (taken : step s .scan = some t) : DriverStep s .scan t := by
  cases running : s.tasklet with
  | scan index =>
    simp only [step, running] at taken
    split at taken
    · rename_i inside
      have here : s.tasklet = .scan (⟨index, inside⟩ : Fin n) := running
      split at taken
      · exact Option.some.inj taken ▸ .returned here
      · exact Option.some.inj taken ▸ .passed here
    · exact Option.some.inj taken ▸ .ended running
  | _ => simp [step, running] at taken

theorem driver_step (a : Action n) (acts : DriverActs a) (taken : step s a = some t) :
    DriverStep s a t := by
  cases a with
  | submit index => exact acts.elim
  | complete index => exact acts.elim
  | raise signals level => exact acts.elim
  | readStatus =>
    by_cases idle : s.handler = .idle
    · rw [step, if_pos idle] at taken
      by_cases low : s.sport = 0
      · rw [if_pos low] at taken
        exact Option.some.inj taken ▸ .low
      · rw [if_neg low] at taken
        exact Option.some.inj taken ▸ .raised idle low
    · rw [step, if_neg idle] at taken
      exact absurd taken (by simp)
  | clearStatus =>
    by_cases clear : s.handler = .clear
    · rw [step, if_pos clear] at taken
      exact Option.some.inj taken ▸ .cleared clear
    · rw [step, if_neg clear] at taken
      exact absurd taken (by simp)
  | schedule =>
    by_cases scheduling : s.handler = .schedule
    · rw [step, if_pos scheduling] at taken
      exact Option.some.inj taken ▸ .scheduled scheduling
    · rw [step, if_neg scheduling] at taken
      exact absurd taken (by simp)
  | start =>
    by_cases may : s.tasklet = .idle ∧ s.scheduled = true
    · rw [step, if_pos may] at taken
      exact Option.some.inj taken ▸ .started may.1 may.2
    · rw [step, if_neg may] at taken
      exact absurd taken (by simp)
  | scan => exact scan_step taken
  | acknowledge =>
    cases running : s.tasklet with
    | acknowledge index =>
      simp only [step, running] at taken
      exact Option.some.inj taken ▸ .acknowledged running
    | _ => simp [step, running] at taken
  | wake =>
    cases running : s.tasklet with
    | wake index =>
      simp only [step, running] at taken
      exact Option.some.inj taken ▸ .woken running
    | _ => simp [step, running] at taken

/-- Every step of the driver that counts takes one from what is left. -/
theorem driver_takes (a : Action n) (acts : DriverActs a) (taken : step s a = some t) :
    t.stepsLeft + driverSteps a ≤ s.stepsLeft := by
  cases driver_step a acts taken with
  | low => exact Nat.le_refl _
  | raised idle high =>
    simp only [State.stepsLeft, driverSteps, idle, handlerSteps, if_pos high]
    omega
  | cleared clear =>
    simp only [State.stepsLeft, driverSteps, clear, handlerSteps, ne_eq, not_true_eq_false, if_false]
    omega
  | scheduled scheduling =>
    simp only [State.stepsLeft, driverSteps, scheduling, handlerSteps, if_true]
    omega
  | started idle due =>
    simp only [State.stepsLeft, driverSteps, idle, due, Tasklet.stepsLeft, passSteps, if_true,
      Bool.false_eq_true, if_false]
    omega
  | @returned index running | @passed index running =>
    have := index.isLt
    simp only [State.stepsLeft, driverSteps, running, Tasklet.stepsLeft]
    omega
  | ended running =>
    simp only [State.stepsLeft, driverSteps, running, Tasklet.stepsLeft]
    omega
  | @acknowledged index running | @woken index running =>
    have := index.isLt
    simp only [State.stepsLeft, driverSteps, running, Tasklet.stepsLeft, State.setCell]
    omega

/-! ## What the driver leaves alone -/

/-- No completion is made and none is signalled. -/
structure SameCompletions (s t : State n) : Prop where
  completions : ∀ index, (t.cells index).completions = (s.cells index).completions
  unsignalled : t.unsignalled = s.unsignalled

theorem setCell_completions {index : Fin n} {cell : Cell}
    (same : cell.completions = (s.cells index).completions) (other : Fin n) :
    ((s.setCell index cell).cells other).completions = (s.cells other).completions := by
  by_cases here : other = index
  · subst here
    rw [setCell_same]
    exact same
  · rw [setCell_other cell here]

theorem driver_sameCompletions (a : Action n) (acts : DriverActs a)
    (taken : step s a = some t) : SameCompletions s t := by
  cases driver_step a acts taken with
  | acknowledged running | woken running => exact ⟨setCell_completions rfl, rfl⟩
  | _ => exact ⟨fun _ => rfl, rfl⟩

theorem driver_run_sameCompletions {actions : List (Action n)}
    (acts : ∀ a ∈ actions, DriverActs a) (reached : run step s actions = some t) :
    SameCompletions s t := by
  induction actions generalizing s with
  | nil =>
    obtain rfl := Option.some.inj reached
    exact ⟨fun _ => rfl, rfl⟩
  | cons a rest ih =>
    obtain ⟨middle, first, later⟩ := Option.bind_eq_some_iff.mp reached
    obtain ⟨now, onward⟩ := List.forall_mem_cons.mp acts
    have step := driver_sameCompletions a now first
    have after := ih onward later
    exact ⟨fun index => (after.completions index).trans (step.completions index),
      after.unsignalled.trans step.unsignalled⟩

theorem scan_goes_on {index : Nat} (running : s.tasklet = .scan index) : ∃ t, step s .scan = some t := by
  simp only [step, running]
  split
  · split
    · exact ⟨_, rfl⟩
    · exact ⟨_, rfl⟩
  · exact ⟨_, rfl⟩

/-- A step that counts is not one that changes nothing. -/
theorem AtRest.no_step (rest : AtRest s) {a : Action n} (acts : DriverActs a) (counts : driverSteps a = 1) :
    step s a = none := by
  cases taken : step s a with
  | none => rfl
  | some t =>
    have fewer := driver_takes a acts taken
    rw [rest a acts t taken] at fewer
    omega

/-- With nothing to do for the driver, and no signal owed by the device, all is quiet. -/
theorem AtRest.quiescent (rest : AtRest s) (signalled : s.unsignalled = 0) : Quiescent s := by
  have handler : s.handler = .idle := by
    cases at_ : s.handler with
    | idle => rfl
    | clear =>
      have stuck := rest.no_step (a := .clearStatus) trivial rfl
      exact absurd stuck (by simp [step, at_])
    | schedule =>
      have stuck := rest.no_step (a := .schedule) trivial rfl
      exact absurd stuck (by simp [step, at_])
  have tasklet : s.tasklet = .idle := by
    cases at_ : s.tasklet with
    | idle => rfl
    | scan index =>
      obtain ⟨t, taken⟩ := scan_goes_on at_
      have stuck := rest.no_step (a := .scan) trivial rfl
      exact absurd (stuck.symm.trans taken) (by simp)
    | acknowledge index =>
      have stuck := rest.no_step (a := .acknowledge) trivial rfl
      exact absurd stuck (by simp [step, at_])
    | wake index =>
      have stuck := rest.no_step (a := .wake) trivial rfl
      exact absurd stuck (by simp [step, at_])
  refine ⟨?_, handler, ?_, tasklet, signalled⟩
  · by_contra raised
    have still := rest .readStatus trivial _ (by rw [step, if_pos handler, if_neg raised]; rfl)
    have moved : Handler.clear = s.handler := congrArg State.handler still
    exact absurd (moved.trans handler) (by simp)
  · by_contra scheduled
    have due : s.scheduled = true := by simpa using scheduled
    have stuck := rest.no_step (a := .start) trivial rfl
    exact absurd stuck (by simp [step, tasklet, due])

/-- In a quiet state no cell is left returned, and the three counts agree. -/
theorem IrqInv.quiet (before : IrqInv s) (quiet : Quiescent s) (index : Fin n) :
    (s.cells index).tag ≠ TAG_RETURNED ∧
      (s.cells index).acknowledgements = (s.cells index).completions ∧
      (s.cells index).wakeUps = (s.cells index).completions := by
  have nowhere : ¬ Located s index := by
    rintro (signal | raised | scheduling | scheduled | running)
    · exact absurd quiet.signalled (by omega)
    · exact raised quiet.status
    · exact absurd (quiet.handler.symm.trans scheduling) (by simp)
    · exact absurd (quiet.scheduled.symm.trans scheduled) (by simp)
    · rw [quiet.tasklet] at running
      exact running
  have notReturned : (s.cells index).tag ≠ TAG_RETURNED :=
    fun returned => nowhere ((before index).located returned)
  have completions := (before index).completions
  have wakeUps := (before index).wakeUps
  rw [if_neg notReturned] at completions
  rw [quiet.tasklet, if_neg (by simp)] at wakeUps
  exact ⟨notReturned, by omega, by omega⟩

/-! ## Runs -/

/-- The driver's steps from a state are few, and when none is left every completion there was
has been acknowledged and its waiter woken. -/
structure Drains (s t : State n) (steps : Nat) : Prop where
  bounded : steps ≤ 12 * n + 11
  woken : s.unsignalled = 0 → AtRest t → ∀ index, (t.cells index).tag ≠ TAG_RETURNED ∧
    (t.cells index).acknowledgements = (s.cells index).completions ∧
    (t.cells index).wakeUps = (s.cells index).completions

theorem IrqInv.drains (before : IrqInv s) {actions : List (Action n)}
    (acts : ∀ a ∈ actions, DriverActs a) (reached : run step s actions = some t) :
    Drains s t (actions.map driverSteps).sum := by
  have after : IrqInv t := run_preserves (fun s a t before taken => before.kept a taken) before reached
  have same := driver_run_sameCompletions acts reached
  refine ⟨?_, fun signalled rest index => ?_⟩
  · have measured := run_measured State.stepsLeft driverSteps (fun s a t => driver_takes a)
      (each_of_forall acts s) reached
    have start := stepsLeft_le s
    omega
  · obtain ⟨notReturned, acknowledged, woken⟩ :=
      after.quiet (rest.quiescent (same.unsignalled.trans signalled)) index
    exact ⟨notReturned, acknowledged.trans (same.completions index), woken.trans (same.completions index)⟩

section Line
variable {Device : Type} [DecidableEq Device] {cells : Device → Nat}
  {line after : ∀ d, State (cells d)}

/-- The steps of the devices on a line and of their handlers and tasklets, in any order. An
interrupt of one device has the handlers of all called. -/
def lineStep : (∀ d, State (cells d)) → (Σ d, Action (cells d)) → Option (∀ d, State (cells d)) :=
  familyStep fun _ => step

/-- Nobody has used the devices yet. -/
def lineStart (cells : Device → Nat) : ∀ d, State (cells d) := fun d => .start (cells d)

/-- Whatever the other devices on the line do, and however often its handler is called for them:
from every state that is reached the driver takes a bounded number of steps for a device that is
given nothing new, in whatever order, and where the device is owed no signal they end with all its
completions acknowledged and their waiters woken. -/
theorem line_drains {before actions : List (Σ d, Action (cells d))}
    (reached : run lineStep (lineStart cells) before = some line)
    (ran : run lineStep line actions = some after) {d : Device}
    (acts : ∀ a ∈ actionsOf d actions, DriverActs a) :
    Drains (line d) (after d) ((actionsOf d actions).map driverSteps).sum := by
  have own : run step (State.start (cells d)) (actionsOf d before) = some (line d) :=
    run_family reached d
  have invariant : IrqInv (line d) :=
    run_preserves (fun s a t before taken => before.kept a taken) (irqInv_start (cells d)) own
  exact invariant.drains acts (run_family ran d)

end Line

/-- Two devices with a cell each complete a request, and one raises its status. -/
def bothComplete : List (Σ _ : Bool, Action 1) :=
  [⟨false, .submit 0⟩, ⟨true, .submit 0⟩, ⟨true, .complete 0⟩, ⟨false, .complete 0⟩,
    ⟨true, .raise 1 1⟩]

/-- The one is served; the other raises its status meanwhile, and both handlers are called for
it. -/
def oneDrained : List (Σ _ : Bool, Action 1) :=
  [⟨true, .readStatus⟩, ⟨false, .readStatus⟩, ⟨true, .clearStatus⟩, ⟨true, .schedule⟩,
    ⟨false, .raise 1 1⟩, ⟨false, .readStatus⟩, ⟨true, .readStatus⟩, ⟨true, .start⟩,
    ⟨false, .clearStatus⟩, ⟨true, .scan⟩, ⟨true, .acknowledge⟩, ⟨false, .schedule⟩, ⟨true, .wake⟩,
    ⟨false, .start⟩, ⟨true, .scan⟩]

theorem line_drains_one :
    ∃ line after : Bool → State 1,
      run lineStep (lineStart fun _ => 1) bothComplete = some line ∧
      run lineStep line oneDrained = some after ∧
      Drains (line true) (after true) ((actionsOf true oneDrained).map driverSteps).sum := by
  obtain ⟨after, both⟩ : ∃ after, (run lineStep (lineStart fun _ => 1) bothComplete).bind
      (run lineStep · oneDrained) = some after :=
    Option.isSome_iff_exists.mp (by decide +kernel)
  obtain ⟨line, reached, ran⟩ := Option.bind_eq_some_iff.mp both
  exact ⟨line, after, reached, ran, line_drains reached ran (by decide +kernel)⟩

end LddLearn.Pcidev02.Interrupt
