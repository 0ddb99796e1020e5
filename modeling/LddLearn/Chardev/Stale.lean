import LddLearn.Chardev.Insertion

/-!
# Numbers that outlive their module

Neither driver gives its major back, on any exit, and the `fops` the major leads to lies in the
module's memory. Nor does `fops` name an owner: the only reference that holds the module while a
file is open is the one `device_open` asks for. So as long as these references are granted no file
outlives its module, and the one way into the memory of a module that is gone is to open a number
it has left behind; every number ever handed out stays registered, and each of them but the last
leads there.
-/

set_option autoImplicit false

namespace LddLearn.Chardev01
open LddLearn.Linux LddLearn.Chardev LddLearn.Chardev02

def DEVICE_NAME : String := "chr-test-dev-1"

def initModule (register : Answer) (picked : Nat) (w : World) : Int × World :=
  let (major, kernel) := w.kernel.registerChrdev DEVICE_NAME register picked
  if major < 0 then (major, { major, kernel }) else (NO_ERROR, { major, kernel })

/-- It prints a line; the call of `unregister_chrdev` is commented out. -/
def cleanupModule (w : World) : World := w

end LddLearn.Chardev01

namespace LddLearn.Chardev.Stale
open LddLearn.Linux LddLearn.Library.Run LddLearn.Chardev02

/-! ## Insertions -/

inductive Driver where
  | chardev01
  | chardev02
  deriving DecidableEq, Repr

/-- chardev-01 makes no /proc entry. -/
def Driver.load (answers : LoadAnswers) (w : World) : Driver → Int × World
  | .chardev01 => Chardev01.initModule answers.register answers.major w
  | .chardev02 => moduleLoad answers w

def Driver.unload (w : World) : Driver → World
  | .chardev01 => Chardev01.cleanupModule w
  | .chardev02 => moduleUnload w

abbrev FilePtr := Nat

/-- The module's memory is there while it is inserted; `fops` tells by which load the
operations behind a major were registered. -/
structure State where
  world : World
  memory : Option (RunState FilePtr)
  loads : Nat
  fops : Nat → Nat
  /-- files still open whose module is gone -/
  left : List FilePtr

def State.boot : State := ⟨⟨0, ⟨[], []⟩⟩, none, 0, fun _ => 0, []⟩

/-- The open file of the module that is in. -/
def State.holder (s : State) : Option FilePtr := s.memory.bind (·.holder)

def State.registered (s : State) : List Nat := s.world.kernel.majors.map (·.1)

inductive Action where
  | load (answers : LoadAnswers) (behind : Nat → Byte)
  | unload
  | open (file : FilePtr) (major : Nat) (moduleGet : Bool)
  | read (file : FilePtr) (size buffer : Nat) (faults : Nat → Bool)
  | release (file : FilePtr)

/-- A module whose load has failed is taken out of memory again. -/
def State.afterLoad (s : State) (answers : LoadAnswers) (behind : Nat → Byte) (ret : Int)
    (world : World) : State where
  world := world
  memory := if ret = NO_ERROR then some (.boot behind) else none
  loads := s.loads + 1
  fops := if answers.register = .ok then Function.update s.fops answers.major (s.loads + 1) else s.fops
  left := s.left

def State.afterUnload (s : State) (driver : Driver) : State where
  world := driver.unload s.world
  memory := none
  loads := s.loads
  fops := s.fops
  left := s.holder.toList ++ s.left

/-- A callback on the memory of the module that is in. -/
def State.call (increment : Int → Int) (s : State) (callback : Callback FilePtr) : Option State :=
  s.memory.bind fun r => (Chardev.step increment r callback).map fun r => { s with memory := some r }

/-- A call has no outcome where it runs code of a module that is gone. A number that nobody has
registered is refused by the kernel. -/
def step (driver : Driver) (increment : Int → Int) (s : State) : Action → Option State
  | .load answers behind =>
    let (ret, world) := driver.load answers s.world
    some (s.afterLoad answers behind ret world)
  | .unload => some (s.afterUnload driver)
  | .open file major moduleGet =>
    if major ∉ s.registered then some s
    else if s.fops major = s.loads then s.call increment (.open file moduleGet)
    else none
  | .read file size buffer faults =>
    if file ∈ s.left then none else s.call increment (.read file size buffer faults)
  | .release file => if file ∈ s.left then none else s.call increment (.release file)

/-- A module is inserted while it is out and removed while nobody holds a reference; the kernel
picks a number that is free, makes a new file for every open, and reads and closes open files. -/
def Calls (s : State) : Action → Prop
  | .load answers _ => s.memory.isNone = true ∧ (answers.register = .ok → answers.major ∉ s.registered)
  | .unload => ∃ r ∈ s.memory, r.dev.moduleRefs = 0
  | .open file _ _ => file ∉ s.left ∧ s.holder ≠ some file
  | .read file _ _ _ | .release file => file ∈ s.left ∨ s.holder = some file

/-- An open that is let through gets its reference. -/
def ReferenceTaken (s : State) : Action → Prop
  | .open _ _ moduleGet => ∀ r ∈ s.memory, r.dev.hasOpen = 0 → moduleGet = true
  | _ => True

/-- The number opened is not registered, or it is the one of the module that is in. -/
def OpensPresent (s : State) : Action → Prop
  | .open _ major _ => major ∈ s.registered → s.memory.isSome = true ∧ s.world.major = major
  | _ => True

def HasOutcome (driver : Driver) (increment : Int → Int) (s : State) (a : Action) : Prop :=
  (step driver increment s a).isSome = true

instance (s : State) : ∀ a : Action, Decidable (Calls s a)
  | .load answers _ => inferInstanceAs (Decidable
      (s.memory.isNone = true ∧ (answers.register = .ok → answers.major ∉ s.registered)))
  | .unload => inferInstanceAs (Decidable (∃ r ∈ s.memory, r.dev.moduleRefs = 0))
  | .open file _ _ => inferInstanceAs (Decidable (file ∉ s.left ∧ s.holder ≠ some file))
  | .read file _ _ _ => inferInstanceAs (Decidable (file ∈ s.left ∨ s.holder = some file))
  | .release file => inferInstanceAs (Decidable (file ∈ s.left ∨ s.holder = some file))

instance (s : State) : ∀ a : Action, Decidable (ReferenceTaken s a)
  | .open _ _ moduleGet =>
    inferInstanceAs (Decidable (∀ r ∈ s.memory, r.dev.hasOpen = 0 → moduleGet = true))
  | .load _ _ | .unload | .read _ _ _ _ | .release _ => isTrue trivial

instance (s : State) : ∀ a : Action, Decidable (OpensPresent s a)
  | .open _ major _ => inferInstanceAs (Decidable
      (major ∈ s.registered → s.memory.isSome = true ∧ s.world.major = major))
  | .load _ _ | .unload | .read _ _ _ _ | .release _ => isTrue trivial

variable {driver : Driver} {increment : Int → Int} {s t : State} {answers : LoadAnswers}

/-! ## Numbers -/

/-- The numbers a load is given. -/
def numbersGiven : Action → List Nat
  | .load answers _ => if answers.register = .ok then [answers.major] else []
  | .unload | .open _ _ _ | .read _ _ _ _ | .release _ => []

/-- Every number handed out is registered, and a load that succeeds has been given the number
in `major`. -/
structure LoadEffects (answers : LoadAnswers) (before after : World) (ret : Int) : Prop where
  numbers : after.kernel.majors.map (·.1) =
    (if answers.register = .ok then [answers.major] else []) ++ before.kernel.majors.map (·.1)
  succeeds : ret = NO_ERROR → answers.register = .ok ∧ after.major = answers.major

theorem initModule_effects (answers : LoadAnswers) (w : World) :
    LoadEffects answers w (Chardev01.initModule answers.register answers.major w).2
      (Chardev01.initModule answers.register answers.major w).1 := by
  unfold Chardev01.initModule Registry.registerChrdev
  cases register : answers.register with
  | ok =>
    have nonneg : ¬ (answers.major : Int) < 0 := by omega
    dsimp only
    rw [if_neg nonneg]
    exact ⟨by simp [register], fun _ => ⟨register, rfl⟩⟩
  | error errno =>
    have negative : (Answer.error errno).code < 0 := by simp
    dsimp only
    rw [if_pos negative]
    refine ⟨by simp [register], fun success => ?_⟩
    have zero : (Answer.error errno).code = 0 := success
    omega

theorem moduleLoad_effects (answers : LoadAnswers) (w : World) :
    LoadEffects answers w (moduleLoad answers w).2 (moduleLoad answers w).1 := by
  by_cases register : answers.register = .ok
  · rw [load_registered register]
    cases answers.procCreate with
    | true => exact ⟨by simp [register], fun _ => ⟨register, rfl⟩⟩
    | false =>
      refine ⟨by simp [register], fun success => ?_⟩
      have zero : -ENOMEM = NO_ERROR := success
      exact absurd zero (by decide)
  · rw [load_unregistered register]
    refine ⟨by simp [register], fun success => ?_⟩
    exact absurd ((Answer.code_eq_zero _).mp success) register

theorem load_effects (driver : Driver) (answers : LoadAnswers) (w : World) :
    LoadEffects answers w (driver.load answers w).2 (driver.load answers w).1 := by
  cases driver with
  | chardev01 => exact initModule_effects answers w
  | chardev02 => exact moduleLoad_effects answers w

theorem unload_majors (driver : Driver) (w : World) :
    (driver.unload w).kernel.majors = w.kernel.majors := by
  cases driver with
  | chardev01 => rfl
  | chardev02 => rfl

/-- The callback an action makes. -/
def callbackOf : Action → Option (Callback FilePtr)
  | .load _ _ | .unload => none
  | .open file _ moduleGet => some (.open file moduleGet)
  | .read file size buffer faults => some (.read file size buffer faults)
  | .release file => some (.release file)

/-- What a step can do. -/
inductive Stepped (driver : Driver) (increment : Int → Int) (s : State) : Action → State → Prop
  | load (answers : LoadAnswers) (behind : Nat → Byte) :
      Stepped driver increment s (.load answers behind)
        (s.afterLoad answers behind (driver.load answers s.world).1 (driver.load answers s.world).2)
  | unload : Stepped driver increment s .unload (s.afterUnload driver)
  | refused (file : FilePtr) (major : Nat) (moduleGet : Bool) :
      Stepped driver increment s (.open file major moduleGet) s
  | called {a : Action} {callback : Callback FilePtr} {r r' : RunState FilePtr}
      (makes : callbackOf a = some callback) (inside : s.memory = some r)
      (moved : Chardev.step increment r callback = some r') :
      Stepped driver increment s a { s with memory := some r' }

theorem stepped_call {a : Action} {callback : Callback FilePtr} (makes : callbackOf a = some callback)
    (taken : s.call increment callback = some t) : Stepped driver increment s a t := by
  obtain ⟨r, inside, called⟩ := Option.bind_eq_some_iff.mp taken
  obtain ⟨r', moved, rfl⟩ := Option.map_eq_some_iff.mp called
  exact .called makes inside moved

theorem stepped (a : Action) (taken : step driver increment s a = some t) :
    Stepped driver increment s a t := by
  cases a with
  | load answers behind =>
    obtain rfl := Option.some.inj taken
    exact .load answers behind
  | unload =>
    obtain rfl := Option.some.inj taken
    exact .unload
  | «open» file major moduleGet =>
    rw [step] at taken
    split at taken
    · exact Option.some.inj taken ▸ .refused file major moduleGet
    · split at taken
      · exact stepped_call rfl taken
      · exact absurd taken (by simp)
  | read file size buffer faults =>
    rw [step] at taken
    split at taken
    · exact absurd taken (by simp)
    · exact stepped_call rfl taken
  | release file =>
    rw [step] at taken
    split at taken
    · exact absurd taken (by simp)
    · exact stepped_call rfl taken

/-- The majors lead to loads there have been, and the one of the module that is in leads to the
latest. -/
structure NumbersInv (s : State) : Prop where
  loaded : ∀ m ∈ s.registered, s.fops m ≤ s.loads
  present : s.memory.isSome = true → ∀ m ∈ s.registered, s.fops m = s.loads ↔ s.world.major = m

theorem numbersInv_boot : NumbersInv .boot :=
  ⟨fun _ never => absurd never List.not_mem_nil, fun inside => absurd inside (by decide)⟩

variable {behind : Nat → Byte} {ret : Int} {world : World}

theorem afterLoad_registered (effects : LoadEffects answers s.world world ret) :
    (s.afterLoad answers behind ret world).registered =
      (if answers.register = .ok then [answers.major] else []) ++ s.registered :=
  effects.numbers

theorem NumbersInv.afterLoad (before : NumbersInv s) (effects : LoadEffects answers s.world world ret) :
    NumbersInv (s.afterLoad answers behind ret world) := by
  have numbers := @afterLoad_registered s answers behind ret world effects
  have earlier : ∀ m ∈ s.registered, s.fops m ≠ s.loads + 1 := by
    intro m registered latest
    have := before.loaded m registered
    omega
  by_cases register : answers.register = .ok
  · have fops : (s.afterLoad answers behind ret world).fops =
        Function.update s.fops answers.major (s.loads + 1) := if_pos register
    rw [if_pos register] at numbers
    refine ⟨fun m member => ?_, fun inside m member => ?_⟩
    · rw [fops]
      by_cases new : m = answers.major
      · rw [new, Function.update_self]
        exact le_refl _
      · rw [numbers] at member
        rw [Function.update_of_ne new]
        exact Nat.le_succ_of_le (before.loaded m ((List.mem_cons.mp member).resolve_left new))
    · have success : ret = NO_ERROR := by
        by_contra failed
        simp [State.afterLoad, failed] at inside
      have noted : (s.afterLoad answers behind ret world).world.major = answers.major :=
        (effects.succeeds success).2
      rw [fops, noted]
      by_cases new : m = answers.major
      · rw [new, Function.update_self]
        exact iff_of_true rfl rfl
      · rw [numbers] at member
        rw [Function.update_of_ne new]
        refine iff_of_false (earlier m ((List.mem_cons.mp member).resolve_left new)) fun same => ?_
        exact new (Int.ofNat.inj same).symm
  · have failed : ret ≠ NO_ERROR := fun success => register (effects.succeeds success).1
    have fops : (s.afterLoad answers behind ret world).fops = s.fops := if_neg register
    rw [if_neg register, List.nil_append] at numbers
    refine ⟨fun m member => ?_, fun inside => ?_⟩
    · rw [numbers] at member
      rw [fops]
      exact Nat.le_succ_of_le (before.loaded m member)
    · simp [State.afterLoad, failed] at inside

theorem NumbersInv.kept (before : NumbersInv s) (a : Action)
    (taken : step driver increment s a = some t) : NumbersInv t := by
  cases stepped a taken with
  | load answers behind => exact before.afterLoad (load_effects driver answers s.world)
  | unload =>
    refine ⟨fun m member => before.loaded m ?_, fun inside => absurd inside Bool.false_ne_true⟩
    simpa only [State.registered, State.afterUnload, unload_majors] using member
  | refused file major moduleGet => exact before
  | called makes inside moved => exact ⟨before.loaded, fun _ => before.present (by rw [inside]; rfl)⟩

/-- Only a load changes what is registered. -/
theorem step_registered (a : Action) (taken : step driver increment s a = some t) :
    t.registered = numbersGiven a ++ s.registered := by
  cases stepped a taken with
  | load answers behind => exact afterLoad_registered (load_effects driver answers s.world)
  | unload => simp only [State.registered, State.afterUnload, unload_majors, numbersGiven, List.nil_append]
  | refused file major moduleGet => rfl
  | called makes inside moved =>
    cases a with
    | load answers behind => exact absurd makes (by simp [callbackOf])
    | unload => exact absurd makes (by simp [callbackOf])
    | «open» file major moduleGet => rfl
    | read file size buffer faults => rfl
    | release file => rfl

theorem registered_of_run {actions : List Action}
    (reached : run (step driver increment) s actions = some t) :
    t.registered = (actions.map numbersGiven).reverse.flatten ++ s.registered := by
  induction actions generalizing s with
  | nil =>
    obtain rfl := Option.some.inj reached
    simp
  | cons a rest ih =>
    obtain ⟨middle, first, later⟩ := Option.bind_eq_some_iff.mp reached
    rw [ih later, step_registered a first]
    simp

theorem open_some (r : RunState FilePtr) (file : FilePtr) (moduleGet : Bool) :
    ∃ r', Chardev.step increment r (.open file moduleGet) = some r' := by
  by_cases free : r.dev.hasOpen = 0
  · exact ⟨_, step_open_free free⟩
  · exact ⟨r, step_open_busy free⟩

theorem call_isSome {callback : Callback FilePtr} {r : RunState FilePtr} (inside : s.memory = some r)
    (goes_on : ∃ r', Chardev.step increment r callback = some r') :
    (s.call increment callback).isSome = true := by
  obtain ⟨r', moved⟩ := goes_on
  simp [State.call, inside, moved]

/-- The one number whose opening stays in the module's code is the one the module has noted. -/
theorem NumbersInv.open_iff (before : NumbersInv s) {major : Nat} (registered : major ∈ s.registered)
    (file : FilePtr) (moduleGet : Bool) :
    HasOutcome driver increment s (.open file major moduleGet) ↔
      s.memory.isSome = true ∧ s.world.major = major := by
  rw [HasOutcome, step, if_neg (not_not.mpr registered)]
  cases inside : s.memory with
  | none => simp [State.call, inside]
  | some r =>
    have latest := before.present (by rw [inside]; rfl) major registered
    by_cases noted : s.world.major = major
    · rw [if_pos (latest.mpr noted)]
      exact iff_of_true (call_isSome inside (open_some r file moduleGet)) ⟨rfl, noted⟩
    · rw [if_neg fun present => noted (latest.mp present)]
      exact iff_of_false (by simp) fun both => noted both.2

/-! ## Files -/

/-- The flag, the references and the pointer of the module that is in go with its open file. -/
structure FileHeld (r : RunState FilePtr) : Prop where
  flag : r.dev.hasOpen = if r.holder.isSome then 1 else 0
  refs : r.dev.moduleRefs = r.dev.hasOpen
  pointer : r.holder.isSome = true → r.dev.msgPtr.isSome = true

theorem fileHeld_boot (behind : Nat → Byte) : FileHeld (.boot behind) :=
  ⟨rfl, rfl, fun held => absurd held Bool.false_ne_true⟩

variable {r r' : RunState FilePtr} {file : FilePtr}

theorem FileHeld.open {moduleGet : Bool} (before : FileHeld r)
    (granted : r.dev.hasOpen = 0 → moduleGet = true)
    (taken : Chardev.step increment r (.open file moduleGet) = some r') : FileHeld r' := by
  by_cases free : r.dev.hasOpen = 0
  · rw [step_open_free free, granted free] at taken
    obtain rfl := Option.some.inj taken
    have refs := before.refs
    refine ⟨?_, ?_, fun _ => ?_⟩
    · rw [RunState.afterOpen, open_free free]
      simp [free]
    · rw [RunState.afterOpen, open_free free]
      simp [refs]
    · rw [RunState.afterOpen, open_free free]
      rfl
  · rw [step_open_busy free] at taken
    exact Option.some.inj taken ▸ before

theorem FileHeld.read {size buffer : Nat} {faults : Nat → Bool} (before : FileHeld r)
    (taken : Chardev.step increment r (.read file size buffer faults) = some r') : FileHeld r' := by
  obtain ⟨-, holder, dev⟩ := step_read_same taken
  have pointer : r'.dev.msgPtr.isSome = true := by
    obtain ⟨⟨ret, stores, after⟩, outcome, rfl⟩ := Option.map_eq_some_iff.mp taken
    obtain ⟨msgPtr, points, result⟩ := Option.map_eq_some_iff.mp outcome
    split at result
    · obtain rfl := (Prod.mk.inj (Prod.mk.inj result).2).2
      simp [points]
    · obtain rfl := (Prod.mk.inj (Prod.mk.inj result).2).2
      rfl
  refine ⟨?_, ?_, fun _ => pointer⟩
  · rw [dev, holder]
    exact before.flag
  · rw [dev]
    exact before.refs

theorem FileHeld.release (before : FileHeld r) (holds : r.holder = some file) :
    FileHeld r.afterRelease := by
  have flag := before.flag
  have refs := before.refs
  rw [holds] at flag
  have one : r.dev.hasOpen = 1 := flag
  refine ⟨?_, ?_, fun held => absurd held Bool.false_ne_true⟩
  · simp [RunState.afterRelease, deviceRelease, one]
  · simp [RunState.afterRelease, deviceRelease, refs]

theorem FileHeld.read_goes_on (before : FileHeld r) (holds : r.holder = some file)
    (size buffer : Nat) (faults : Nat → Bool) :
    ∃ r', Chardev.step increment r (.read file size buffer faults) = some r' := by
  obtain ⟨msgPtr, points⟩ := Option.isSome_iff_exists.mp (before.pointer (by rw [holds]; rfl))
  simp [Chardev.step, deviceRead, points]

/-- No file is left behind by a module that was removed. -/
structure FilesInv (s : State) : Prop extends NumbersInv s where
  none_left : s.left = []
  held : ∀ r ∈ s.memory, FileHeld r

/-- Who has a file open has it open on the module that is in. -/
theorem FilesInv.holder (before : FilesInv s) (opened : file ∈ s.left ∨ s.holder = some file) :
    file ∉ s.left ∧ ∃ r, s.memory = some r ∧ r.holder = some file := by
  rw [before.none_left] at opened ⊢
  refine ⟨List.not_mem_nil, ?_⟩
  exact Option.bind_eq_some_iff.mp (opened.resolve_left List.not_mem_nil)

/-- With no reference held there is no open file. -/
theorem FilesInv.unheld (before : FilesInv s) (inside : s.memory = some r)
    (unused : r.dev.moduleRefs = 0) : s.holder = none := by
  have held := before.held r inside
  have refs := held.refs
  have flag := held.flag
  rw [State.holder, inside, Option.bind_some]
  cases holder : r.holder with
  | none => rfl
  | some file =>
    rw [holder] at flag
    have one : r.dev.hasOpen = 1 := flag
    omega

theorem FilesInv.outcome_iff (before : FilesInv s) (a : Action) (allowed : Calls s a) :
    HasOutcome driver increment s a ↔ OpensPresent s a := by
  cases a with
  | load answers behind => exact iff_of_true rfl trivial
  | unload => exact iff_of_true rfl trivial
  | «open» file major moduleGet =>
    by_cases registered : major ∈ s.registered
    · rw [before.open_iff registered]
      exact ⟨fun present _ => present, fun present => present registered⟩
    · refine iff_of_true ?_ fun known => absurd known registered
      rw [HasOutcome, step, if_pos registered]
      rfl
  | read file size buffer faults =>
    obtain ⟨here, r, inside, holds⟩ := before.holder allowed
    refine iff_of_true ?_ trivial
    rw [HasOutcome, step, if_neg here]
    exact call_isSome inside ((before.held r inside).read_goes_on holds size buffer faults)
  | release file =>
    obtain ⟨here, r, inside, holds⟩ := before.holder allowed
    refine iff_of_true ?_ trivial
    rw [HasOutcome, step, if_neg here]
    exact call_isSome inside ⟨_, rfl⟩

theorem FilesInv.called (before : FilesInv s) {a : Action} (allowed : Calls s a)
    (granted : ReferenceTaken s a) {callback : Callback FilePtr} (makes : callbackOf a = some callback)
    (inside : s.memory = some r) (moved : Chardev.step increment r callback = some r') :
    FileHeld r' := by
  have held := before.held r inside
  cases a with
  | load answers behind => exact absurd makes (by simp [callbackOf])
  | unload => exact absurd makes (by simp [callbackOf])
  | «open» file major moduleGet =>
    obtain rfl := Option.some.inj makes
    exact held.open (granted r inside) moved
  | read file size buffer faults =>
    obtain rfl := Option.some.inj makes
    exact held.read moved
  | release file =>
    obtain rfl := Option.some.inj makes
    obtain ⟨_, same, there, holds⟩ := before.holder allowed
    obtain rfl := Option.some.inj (inside.symm.trans there)
    exact Option.some.inj moved ▸ held.release holds

theorem FilesInv.kept (before : FilesInv s) (a : Action) (allowed : Calls s a)
    (granted : ReferenceTaken s a) (taken : step driver increment s a = some t) : FilesInv t := by
  have numbers := before.toNumbersInv.kept a taken
  cases stepped a taken with
  | load answers behind =>
    refine ⟨numbers, before.none_left, fun r member => ?_⟩
    obtain ⟨_, fresh⟩ := Option.ite_none_right_eq_some.mp member
    exact Option.some.inj fresh ▸ fileHeld_boot behind
  | unload =>
    obtain ⟨r, inside, unused⟩ := allowed
    refine ⟨numbers, ?_, fun r member => absurd member (by simp [State.afterUnload])⟩
    simp [State.afterUnload, before.unheld inside unused, before.none_left]
  | refused file major moduleGet => exact before
  | called makes inside moved =>
    refine ⟨numbers, before.none_left, fun same member => ?_⟩
    exact Option.some.inj member ▸ before.called allowed granted makes inside moved

/-! ## Runs -/

/-- Every number that a load was given stays registered, and each of them leads into the memory
of a module that is gone, but for the one in the `major` of the module that is in. -/
theorem numbers_outlive_modules {actions : List Action}
    (reached : run (step driver increment) .boot actions = some s) :
    s.registered = (actions.map numbersGiven).reverse.flatten ∧
      ∀ major ∈ s.registered, ∀ file moduleGet,
        HasOutcome driver increment s (.open file major moduleGet) ↔
          s.memory.isSome = true ∧ s.world.major = major := by
  have numbers : NumbersInv s :=
    run_preserves (fun s a t before taken => before.kept a taken) numbersInv_boot reached
  exact ⟨(registered_of_run reached).trans (List.append_nil _), fun _ registered => numbers.open_iff registered⟩

/-- A load of chardev-02 that fails at its /proc entry, and one that does not. -/
def twoLoads : List Action :=
  [.load { sampleLoad with procCreate := false } fun _ => 0, .load { sampleLoad with major := 241 } fun _ => 0]

theorem numbers_outlive_modules_two :
    ∃ s, run (step .chardev02 wrapIncrement) .boot twoLoads = some s ∧
      s.registered = (twoLoads.map numbersGiven).reverse.flatten ∧
      ∀ major ∈ s.registered, ∀ file moduleGet,
        HasOutcome .chardev02 wrapIncrement s (.open file major moduleGet) ↔
          s.memory.isSome = true ∧ s.world.major = major := by
  obtain ⟨s, reached⟩ : ∃ s, run (step .chardev02 wrapIncrement) .boot twoLoads = some s := ⟨_, rfl⟩
  exact ⟨s, reached, numbers_outlive_modules reached⟩

/-- Where every open gets its reference, the runs that stay out of the memory of modules that are
gone are those that open no number an earlier load has left behind. -/
theorem each_hasOutcome_iff {actions : List Action}
    (called : Each (step driver increment) Calls .boot actions)
    (granted : Each (step driver increment) ReferenceTaken .boot actions) :
    Each (step driver increment) (HasOutcome driver increment) .boot actions ↔
      Each (step driver increment) OpensPresent .boot actions := by
  have start : FilesInv .boot := ⟨numbersInv_boot, rfl, fun r member => absurd member (by simp [State.boot])⟩
  refine each_iff_each (fun s a before both => ?_) ?_ start ((each_and _ _).mpr ⟨called, granted⟩)
  · exact before.outcome_iff a both.1
  · intro s a t before both _ taken
    exact before.kept a both.1 both.2 taken

/-- chardev-01 is used, removed, inserted again with another number, and a number opened. -/
def openedAgain (major : Nat) : List Action :=
  [.load sampleLoad fun _ => 0, .open 0 240 true, .open 1 240 true, .read 0 8 4096 fun _ => false,
    .release 0, .unload, .load { sampleLoad with major := 241 } fun _ => 0, .open 2 major true]

theorem each_hasOutcome_again :
    Each (step .chardev01 wrapIncrement) (HasOutcome .chardev01 wrapIncrement) .boot (openedAgain 241) ∧
      ¬ Each (step .chardev01 wrapIncrement) (HasOutcome .chardev01 wrapIncrement) .boot
        (openedAgain 240) := by
  constructor
  · exact (each_hasOutcome_iff (by decide +kernel) (by decide +kernel)).mpr (by decide +kernel)
  · intro within
    exact absurd ((each_hasOutcome_iff (by decide +kernel) (by decide +kernel)).mp within)
      (by decide +kernel)

end LddLearn.Chardev.Stale
