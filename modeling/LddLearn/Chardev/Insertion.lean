import LddLearn.Chardev.Device
import LddLearn.Linux.Kernel

/-!
# Loading and unloading chardev-02

`module_load` registers a major and then makes the /proc entry, and gives the major
back on no exit. `module_unload` removes the entry only: its `unregister_chrdev` is
commented out. So a load that fails at its second step and every unload leave a major
behind, with the `fops` of a module that is gone.
-/

set_option autoImplicit false

namespace LddLearn.Chardev02
open LddLearn.Linux LddLearn.Chardev LddLearn.Library.Run

def DEVICE_NAME : String := "chr-test-dev-2"
def PROC_FS_ENTRY_NAME : String := "chr-test-dev"
def ENOMEM : Int := 12

/-- What the kernel has registered for the module. -/
structure Registry where
  majors : List (Nat × String)
  procEntries : List String
  deriving DecidableEq, Repr

namespace Registry

/-- `register_chrdev(0, …)`: a major the kernel picks, or a negative errno. -/
def registerChrdev (k : Registry) (name : String) (answer : Answer) (major : Nat) :
    Int × Registry :=
  match answer with
  | .ok => (major, { k with majors := (major, name) :: k.majors })
  | .error _ => (answer.code, k)

/-- Whether `proc_create` returned an entry; it is NULL otherwise. -/
def procCreate (k : Registry) (name : String) (granted : Bool) : Bool × Registry :=
  if granted then (true, { k with procEntries := name :: k.procEntries }) else (false, k)

def removeProcEntry (k : Registry) (name : String) : Registry :=
  { k with procEntries := k.procEntries.filter (· ≠ name) }

end Registry

def pocEntryOpen (k : Registry) (name : String) (granted : Bool) : Int × Registry :=
  let (pocEntry, k) := k.procCreate name granted
  if pocEntry = false then (-ENOMEM, k) else (NO_ERROR, k)

def pocEntryClose (k : Registry) (name : String) : Registry := k.removeProcEntry name

/-- The kernel's side of one `module_load`. -/
structure LoadAnswers where
  register : Answer
  major : Nat
  procCreate : Bool
  deriving DecidableEq, Repr

/-- The module's `major` and the kernel. -/
structure World where
  major : Int
  kernel : Registry
  deriving DecidableEq, Repr

def moduleLoad (answers : LoadAnswers) (w : World) : Int × World :=
  let (major, kernel) := w.kernel.registerChrdev DEVICE_NAME answers.register answers.major
  if major < 0 then (major, { major, kernel })
  else
    let (ret, kernel) := pocEntryOpen kernel PROC_FS_ENTRY_NAME answers.procCreate
    if 0 ≠ ret then (ret, { major, kernel })
    else (NO_ERROR, { major, kernel })

def moduleUnload (w : World) : World :=
  { w with kernel := pocEntryClose w.kernel PROC_FS_ENTRY_NAME }

/-! ## Cycles -/

structure Inserted where
  world : World
  loaded : Bool
  deriving DecidableEq, Repr

def Inserted.boot : Inserted := ⟨⟨0, ⟨[], []⟩⟩, false⟩

inductive Call where
  | load (answers : LoadAnswers)
  | unload
  deriving DecidableEq, Repr

def step (s : Inserted) : Call → Option Inserted
  | .load answers =>
    let (ret, world) := moduleLoad answers s.world
    some { world, loaded := decide (ret = NO_ERROR) }
  | .unload => some { world := moduleUnload s.world, loaded := false }

/-- A module is loaded while it is out, and unloaded after a load that returned NO_ERROR. -/
def InsertedOnce (s : Inserted) : Call → Prop
  | .load _ => s.loaded = false
  | .unload => s.loaded = true

instance (s : Inserted) : ∀ call : Call, Decidable (InsertedOnce s call)
  | .load _ => inferInstanceAs (Decidable (s.loaded = false))
  | .unload => inferInstanceAs (Decidable (s.loaded = true))

/-- While the module is out the kernel has nothing of it left. -/
def GivenBack (s : Inserted) : Prop :=
  s.loaded = false → s.world.kernel = ⟨[], []⟩

instance : DecidablePred GivenBack :=
  fun s => inferInstanceAs (Decidable (s.loaded = false → s.world.kernel = ⟨[], []⟩))

/-- A load whose first step succeeds has its second succeed too; an unload never qualifies. -/
def LeavesNothing (_ : Inserted) : Call → Prop
  | .load answers => answers.register = .ok → answers.procCreate = true
  | .unload => False

instance (s : Inserted) : ∀ call : Call, Decidable (LeavesNothing s call)
  | .load answers =>
    inferInstanceAs (Decidable (answers.register = .ok → answers.procCreate = true))
  | .unload => isFalse id

/-- Nothing is held while the module is out, and a major while it is in. -/
structure CycleInv (s : Inserted) : Prop where
  out : GivenBack s
  inside : s.loaded = true → s.world.kernel.majors ≠ []

variable {s : Inserted} {answers : LoadAnswers}

theorem load_unregistered (refused : answers.register ≠ .ok) (w : World) :
    moduleLoad answers w = (answers.register.code, ⟨answers.register.code, w.kernel⟩) := by
  have negative : answers.register.code < 0 := by simpa using refused
  unfold moduleLoad Registry.registerChrdev
  cases answer : answers.register with
  | ok => exact absurd answer refused
  | error errno =>
    rw [answer] at negative
    exact if_pos negative

theorem load_registered (granted : answers.register = .ok) (w : World) :
    moduleLoad answers w =
      if answers.procCreate then
        (NO_ERROR, ⟨answers.major, ⟨(answers.major, DEVICE_NAME) :: w.kernel.majors,
          PROC_FS_ENTRY_NAME :: w.kernel.procEntries⟩⟩)
      else (-ENOMEM, ⟨answers.major, ⟨(answers.major, DEVICE_NAME) :: w.kernel.majors,
        w.kernel.procEntries⟩⟩) := by
  have nonneg : ¬ (answers.major : Int) < 0 := by omega
  unfold moduleLoad Registry.registerChrdev
  rw [granted]
  dsimp only
  rw [if_neg nonneg]
  cases answers.procCreate <;> rfl

theorem step_load_unregistered (refused : answers.register ≠ .ok) :
    step s (.load answers) = some ⟨⟨answers.register.code, s.world.kernel⟩, false⟩ := by
  have failed : answers.register.code ≠ NO_ERROR := by
    intro zero
    exact refused ((Answer.code_eq_zero _).mp zero)
  simp only [step, load_unregistered refused, failed, decide_false]

theorem step_load_registered (granted : answers.register = .ok) :
    ∃ t, step s (.load answers) = some t ∧ t.loaded = answers.procCreate ∧
      t.world.kernel.majors ≠ [] := by
  have failed : -ENOMEM ≠ NO_ERROR := by decide
  simp only [step, load_registered granted]
  cases answers.procCreate with
  | true => exact ⟨_, rfl, by simp, List.cons_ne_nil _ _⟩
  | false => exact ⟨_, rfl, by simp [failed], List.cons_ne_nil _ _⟩

theorem not_givenBack {t : Inserted} (out : t.loaded = false) (left : t.world.kernel.majors ≠ []) :
    ¬ GivenBack t := by
  intro given
  rw [given out] at left
  exact left rfl

/-- One call leaves nothing behind exactly when it is a load that fails at no second step. -/
theorem givenBack_iff (call : Call) (before : CycleInv s) (called : InsertedOnce s call) :
    Leads step GivenBack s call ↔ LeavesNothing s call := by
  cases call with
  | load answers =>
    have empty : s.world.kernel = ⟨[], []⟩ := before.out called
    by_cases granted : answers.register = .ok
    · obtain ⟨t, taken, loaded, majors⟩ := step_load_registered (s := s) granted
      rw [leads_iff taken]
      constructor
      · intro given _
        by_contra refused
        have out : t.loaded = false := by simpa [loaded] using refused
        exact not_givenBack out majors given
      · intro created out
        rw [loaded, created granted] at out
        exact absurd out (by simp)
    · rw [leads_iff (step_load_unregistered granted)]
      exact ⟨fun _ isGranted => absurd isGranted granted, fun _ _ => empty⟩
  | unload =>
    have left : s.world.kernel.majors ≠ [] := before.inside called
    let t : Inserted := ⟨moduleUnload s.world, false⟩
    have leaves : ¬ GivenBack t := not_givenBack rfl left
    rw [leads_iff (show step s .unload = some t from rfl)]
    exact ⟨fun given => absurd given leaves, fun never => never.elim⟩

theorem CycleInv.kept {t : Inserted} (call : Call) (before : CycleInv s)
    (called : InsertedOnce s call) (clean : LeavesNothing s call) (taken : step s call = some t) :
    CycleInv t := by
  have given : GivenBack t := ((givenBack_iff call before called).mpr clean).reached taken
  refine ⟨given, fun loaded => ?_⟩
  cases call with
  | load answers =>
    by_cases granted : answers.register = .ok
    · obtain ⟨same, reached, _, majors⟩ := step_load_registered (s := s) granted
      exact Option.some.inj (reached.symm.trans taken) ▸ majors
    · obtain rfl := Option.some.inj ((step_load_unregistered granted).symm.trans taken)
      exact absurd loaded (by simp)
  | unload => exact clean.elim

/-- Exactly the sequences that never unload, and whose loads never fail behind
`register_chrdev`, leave nothing registered whenever the module is out. -/
theorem each_givenBack_iff {calls : List Call} (called : Each step InsertedOnce .boot calls) :
    Each step (Leads step GivenBack) .boot calls ↔ Each step LeavesNothing .boot calls := by
  have start : CycleInv .boot := ⟨fun _ => rfl, fun loaded => absurd loaded (by decide)⟩
  refine each_iff_each (fun s call before allowed => ?_) ?_ start called
  · exact givenBack_iff call before allowed
  · intro s call t before allowed clean taken
    exact before.kept call allowed clean taken

def sampleLoad : LoadAnswers := ⟨.ok, 240, true⟩

/-- A load that fails at once, then one that succeeds. -/
theorem each_givenBack_loads :
    Each step (Leads step GivenBack) .boot
      [.load { sampleLoad with register := .error 15 }, .load sampleLoad] :=
  (each_givenBack_iff (by decide +kernel)).mpr (by decide +kernel)

/-- A load whose `proc_create` fails, and a whole cycle, each leave a major registered. -/
theorem majors_left :
    (Each step InsertedOnce .boot [.load { sampleLoad with procCreate := false }] ∧
      ¬ Each step (Leads step GivenBack) .boot [.load { sampleLoad with procCreate := false }]) ∧
    Each step InsertedOnce .boot [.load sampleLoad, .unload] ∧
      ¬ Each step (Leads step GivenBack) .boot [.load sampleLoad, .unload] := by
  refine ⟨⟨?_, ?_⟩, ?_, ?_⟩ <;> decide +kernel

end LddLearn.Chardev02
