import LddLearn.Chardev.MsgBuff

/-!
# Open files and module references

`device_open` takes a module reference for the file it opens and does not look at
`try_module_get`'s answer; `device_release` drops one for every file closed. The
counts of open files, of `has_open` and of references stay equal as long as every
accepted open has got its reference. Only the first 99 are accounted for: the next
one's `sprintf` writes behind `msg_buff`, where `has_open` may lie.
-/

set_option autoImplicit false

namespace LddLearn.Chardev
open LddLearn.Library LddLearn.Library.Run

/-- A run with the number of `device_release` calls made so far. -/
structure Counted (Process : Type) where
  run : RunState Process
  released : Nat

def releases {Process : Type} : Callback Process → Nat
  | .open _ _ => 0
  | .read _ _ _ _ => 0
  | .release _ => 1

namespace Counted

variable {Process : Type}

def boot (behind : Nat → Byte) : Counted Process := ⟨.boot behind, 0⟩

/-- Files open: one for each successful open not yet released. -/
def files (c : Counted Process) : Int := c.run.opens - c.released

def step (increment : Int → Int) (c : Counted Process) (call : Callback Process) :
    Option (Counted Process) :=
  (Chardev.step increment c.run call).map fun run =>
    { run, released := c.released + releases call }

/-- Reads and releases are made on an open file. -/
def OnOpenFile (c : Counted Process) : Callback Process → Prop
  | .open _ _ => True
  | .read _ _ _ _ => 0 < c.files
  | .release _ => 0 < c.files

instance (c : Counted Process) : ∀ call : Callback Process, Decidable (OnOpenFile c call)
  | .open _ _ => isTrue trivial
  | .read _ _ _ _ => inferInstanceAs (Decidable (0 < c.files))
  | .release _ => inferInstanceAs (Decidable (0 < c.files))

/-- `has_open` is 0 or 1, the number of open files, and the number of references held. -/
structure InStep (c : Counted Process) : Prop where
  flag : c.run.dev.hasOpen = 0 ∨ c.run.dev.hasOpen = 1
  files : c.run.dev.hasOpen = c.files
  refs : c.run.dev.hasOpen = c.run.dev.moduleRefs

/-- `module_put` finds a reference to drop. -/
def PutsHeld (c : Counted Process) : Callback Process → Prop
  | .release _ => 0 < c.run.dev.moduleRefs
  | _ => True

/-- The call drops no reference that was not taken, has an outcome and leaves the counts equal. -/
def CountsAgree (increment : Int → Int) (c : Counted Process) (call : Callback Process) : Prop :=
  PutsHeld c call ∧ Leads (step increment) InStep c call

/-- An open that is let through gets its reference, and is one of the first 99. -/
def OpensSoundly (c : Counted Process) : Callback Process → Prop
  | .open _ moduleGet => c.run.dev.hasOpen = 0 → moduleGet = true ∧ c.run.opens < 99
  | _ => True

instance (c : Counted Process) : ∀ call : Callback Process, Decidable (OpensSoundly c call)
  | .open _ moduleGet =>
    inferInstanceAs (Decidable (c.run.dev.hasOpen = 0 → moduleGet = true ∧ c.run.opens < 99))
  | .read _ _ _ _ => isTrue trivial
  | .release _ => isTrue trivial

/-- The counts are equal, `msg_ptr` has been set once there has been an open, and `sprintf` has
stayed in `msg_buff`. -/
structure CountInv (behind : Nat → Byte) (c : Counted Process) : Prop where
  agree : InStep c
  pointed : 0 < c.run.opens → c.run.dev.msgPtr ≠ none
  buffer : BuffInv behind c.run
  few : c.run.opens ≤ 99

variable {increment : Int → Int} {behind : Nat → Byte} {c : Counted Process} {process : Process}
  {moduleGet : Bool}

theorem CountInv.boot (behind : Nat → Byte) : CountInv behind (.boot behind : Counted Process) where
  agree := ⟨Or.inl rfl, rfl, rfl⟩
  pointed := fun opened => absurd opened (by simp [Counted.boot, RunState.boot])
  buffer := .start behind
  few := Nat.zero_le 99

theorem CountInv.buffSound (invariant : CountInv behind c) : MsgBuffSound behind c.run :=
  invariant.buffer.sound invariant.few

theorem step_open_busy (busy : c.run.dev.hasOpen ≠ 0) :
    step increment c (.open process moduleGet) = some c := by
  rw [step, Chardev.step_open_busy busy]
  rfl

theorem step_open_free (free : c.run.dev.hasOpen = 0) :
    step increment c (.open process moduleGet) = some { c with
      run := c.run.afterOpen process (deviceOpen increment moduleGet c.run.dev).2 } := by
  rw [step, Chardev.step_open_free free]
  rfl

/-! ## The counts through one call -/

/-- An open let through keeps the counts equal exactly when it gets its reference. -/
theorem inStep_open_iff (before : InStep c) (free : c.run.dev.hasOpen = 0) :
    InStep { c with run := c.run.afterOpen process (deviceOpen increment moduleGet c.run.dev).2 } ↔
      moduleGet = true := by
  have files := before.files
  have refs := before.refs
  unfold Counted.files at files
  rw [open_free free]
  constructor
  · intro after
    have same := after.refs
    change c.run.dev.hasOpen + 1 = if moduleGet then c.run.dev.moduleRefs + 1 else c.run.dev.moduleRefs
      at same
    cases moduleGet with
    | true => rfl
    | false =>
      have : c.run.dev.hasOpen + 1 = c.run.dev.moduleRefs := same
      omega
  · rintro rfl
    refine ⟨?_, ?_, ?_⟩
    · change c.run.dev.hasOpen + 1 = 0 ∨ c.run.dev.hasOpen + 1 = 1
      omega
    · change c.run.dev.hasOpen + 1 = ((c.run.opens + 1 : Nat) : Int) - c.released
      omega
    · change c.run.dev.hasOpen + 1 = c.run.dev.moduleRefs + 1
      omega

theorem CountInv.open_kept (before : CountInv behind c)
    (opens : OpensSoundly c (.open process moduleGet)) :
    Leads (step wrapIncrement) (CountInv behind) c (.open process moduleGet) := by
  by_cases free : c.run.dev.hasOpen = 0
  · obtain ⟨granted, room⟩ := opens free
    refine ⟨_, step_open_free free, (inStep_open_iff before.agree free).mpr granted, fun _ => ?_,
      before.buffer.opened process moduleGet free, room⟩
    rw [open_free free]
    exact Option.some_ne_none 0
  · exact ⟨c, step_open_busy free, before⟩

/-- A read moves a `msg_ptr` that was set, and does not clear it. -/
theorem read_pointed {run run' : RunState Process} {size buffer position : Nat}
    {faults : Nat → Bool} (pointer : run.dev.msgPtr = some position)
    (taken : Chardev.step increment run (.read process size buffer faults) = some run') :
    run'.dev.msgPtr ≠ none := by
  obtain ⟨⟨ret, stores, dev⟩, outcome, same⟩ := Option.map_eq_some_iff.mp taken
  subst same
  rw [deviceRead, pointer, Option.map_some] at outcome
  change dev.msgPtr ≠ none
  split at outcome
  · obtain ⟨_, rfl, rfl⟩ := outcome
    rw [pointer]
    exact Option.some_ne_none position
  · obtain ⟨_, rfl, rfl⟩ := outcome
    exact Option.some_ne_none _

/-- With a file open `msg_ptr` points somewhere, so a read returns. -/
theorem CountInv.read_kept {size buffer : Nat} {faults : Nat → Bool} (before : CountInv behind c)
    (called : OnOpenFile c (.read process size buffer faults)) :
    Leads (step wrapIncrement) (CountInv behind) c (.read process size buffer faults) := by
  have open_ : 0 < c.files := called
  have opened : 0 < c.run.opens := by
    unfold Counted.files at open_
    omega
  obtain ⟨msgPtr, pointer⟩ := Option.ne_none_iff_exists'.mp (before.pointed opened)
  obtain ⟨run, taken⟩ : ∃ run,
      Chardev.step wrapIncrement c.run (.read process size buffer faults) = some run := by
    simp only [Chardev.step, deviceRead, pointer, Option.map_some]
    exact ⟨_, rfl⟩
  obtain ⟨opens, _, dev⟩ := step_read_same taken
  have flag : run.dev.hasOpen = c.run.dev.hasOpen := by rw [dev]
  have refs : run.dev.moduleRefs = c.run.dev.moduleRefs := by rw [dev]
  refine ⟨_, by rw [step, taken, Option.map_some], ⟨?_, ?_, ?_⟩, fun _ => ?_,
    before.buffer.kept _ taken, opens.le.trans before.few⟩
  · exact flag ▸ before.agree.flag
  · change run.dev.hasOpen = (run.opens : Int) - c.released
    rw [flag, opens]
    exact before.agree.files
  · exact (flag.trans before.agree.refs).trans refs.symm
  · exact read_pointed pointer taken

theorem CountInv.release_kept (before : CountInv behind c) (called : OnOpenFile c (.release process)) :
    Leads (step wrapIncrement) (CountInv behind) c (.release process) := by
  have open_ : 0 < c.files := called
  have flag := before.agree.flag
  have files := before.agree.files
  have refs := before.agree.refs
  refine ⟨_, rfl, ⟨?_, ?_, ?_⟩, before.pointed, before.buffer.kept (.release process) rfl, before.few⟩
  · change c.run.dev.hasOpen - 1 = 0 ∨ c.run.dev.hasOpen - 1 = 1
    omega
  · change c.run.dev.hasOpen - 1 = (c.run.opens : Int) - ((c.released + 1 : Nat) : Int)
    unfold Counted.files at files
    omega
  · change c.run.dev.hasOpen - 1 = c.run.dev.moduleRefs - 1
    omega

theorem CountInv.kept (call : Callback Process) (before : CountInv behind c)
    (called : OnOpenFile c call) (opens : OpensSoundly c call) :
    Leads (step wrapIncrement) (CountInv behind) c call := by
  cases call with
  | «open» process moduleGet => exact before.open_kept opens
  | read process size buffer faults => exact before.read_kept called
  | release process => exact before.release_kept called

/-- A release drops a reference that is held. -/
theorem InStep.putsHeld (call : Callback Process) (agree : InStep c) (called : OnOpenFile c call) :
    PutsHeld c call := by
  cases call with
  | «open» process moduleGet => trivial
  | read process size buffer faults => trivial
  | release process =>
    have open_ : 0 < c.files := called
    have files := agree.files
    have refs := agree.refs
    change 0 < c.run.dev.moduleRefs
    omega

/-! ## Runs -/

/-- In the runs in which every open that is let through gets its module reference and is one of
the first 99, every call has an outcome, the counts stay equal, and `sprintf` stays in `msg_buff`,
so that it reaches no other variable. -/
theorem each_countsAgree_of_opensSoundly (behind : Nat → Byte) {calls : List (Callback Process)}
    (called : Each (step wrapIncrement) OnOpenFile (.boot behind) calls)
    (opens : Each (step wrapIncrement) OpensSoundly (.boot behind) calls) :
    Each (step wrapIncrement)
      (fun c call => CountsAgree wrapIncrement c call ∧
        Leads (step wrapIncrement) (fun c => MsgBuffSound behind c.run) c call)
      (.boot behind) calls := by
  have start : CountInv behind (.boot behind : Counted Process) := .boot behind
  refine each_of_guarded (fun c call c' before both taken => ?_) (fun c call before both => ?_) start
    ((each_and _ calls).mpr ⟨called, opens⟩)
  · exact (CountInv.kept call before both.1 both.2).reached taken
  · obtain ⟨c', taken, after⟩ := CountInv.kept call before both.1 both.2
    exact ⟨⟨before.agree.putsHeld call both.1, c', taken, after.agree⟩, c', taken, after.buffSound⟩

/-- An open, its release, and an open turned away in between. -/
def shared (first second : Bool) : List (Callback Nat) :=
  [.open 0 first, .open 1 second, .release 0]

theorem each_countsAgree_shared :
    Each (step wrapIncrement)
      (fun c call => CountsAgree wrapIncrement c call ∧
        Leads (step wrapIncrement) (fun c => MsgBuffSound (fun _ => 0) c.run) c call)
      (.boot fun _ => 0) (shared true false) :=
  each_countsAgree_of_opensSoundly (fun _ => 0) (by decide +kernel) (by decide +kernel)

/-- `try_module_get` fails, the open succeeds, and its release drops a reference nobody took. -/
theorem release_drops_untaken :
    Each (step wrapIncrement) OnOpenFile (.boot fun _ => 0) (shared false true) ∧
      ¬ Each (step wrapIncrement) (CountsAgree wrapIncrement) (.boot fun _ => 0)
        (shared false true) := by
  constructor
  · decide +kernel
  · rintro ⟨⟨_, opened⟩, _⟩
    obtain ⟨c, taken, agree⟩ := opened
    obtain rfl := Option.some.inj taken
    have same := agree.refs
    exact absurd same (by decide)

end Counted

end LddLearn.Chardev
