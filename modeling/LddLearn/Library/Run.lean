import Mathlib.Algebra.BigOperators.Group.List.Basic
import Mathlib.Algebra.Ring.Nat
import Mathlib.Data.List.Infix
import Mathlib.Data.Option.Basic
import Mathlib.Logic.Function.Basic

/-!
# Runs of a partial step function

A system is a step function `State → Action → Option State`; `none` means that
the action has no defined outcome in that state. `run` executes a list of
actions, `Each` says that a condition holds of every action of a run at the
state the action starts from. The rules below carry an invariant through a run
(`run_preserves`, `run_guarded`), read a property of single steps off it
(`each_of_guarded`), and decide exactly which runs have a property when it can
be decided step by step (`each_iff_each`). `run_measured` bounds the length of runs, `run_view`
carries runs from one level of a system to another, `run_simulated` those whose steps are, one
level up, none, one or several, and `run_family` takes the run of one system out of an
interleaving of many.
-/

set_option autoImplicit false

namespace LddLearn.Library.Run

universe u v
variable {State : Type u} {Action : Type v}

/-- The state after all actions, executed in order. -/
def run (step : State → Action → Option State) : State → List Action → Option State
  | s, [] => some s
  | s, a :: rest => (step s a).bind (run step · rest)

/-- `holds` is true of every action of the run, at the state it starts from.
Nothing is asked of the actions after one without outcome. -/
def Each (step : State → Action → Option State) (holds : State → Action → Prop) :
    State → List Action → Prop
  | _, [] => True
  | s, a :: rest => holds s a ∧ ∀ t ∈ step s a, Each step holds t rest

/-- The action has an outcome, and the state it leads to is good. -/
def Leads (step : State → Action → Option State) (good : State → Prop) (s : State) (a : Action) :
    Prop :=
  ∃ t, step s a = some t ∧ good t

instance Leads.decidable (step : State → Action → Option State) (good : State → Prop)
    [DecidablePred good] (s : State) (a : Action) : Decidable (Leads step good s a) :=
  match h : step s a with
  | none => isFalse fun ⟨_, taken, _⟩ => by simp [h] at taken
  | some t => decidable_of_iff (good t)
    ⟨fun final => ⟨t, h, final⟩, fun ⟨_, taken, final⟩ => Option.some.inj (h.symm.trans taken) ▸ final⟩

variable {step : State → Action → Option State} {invariant good : State → Prop}
  {holds allowed : State → Action → Prop}

instance Each.decidable [∀ s a, Decidable (holds s a)] :
    ∀ (s : State) (actions : List Action), Decidable (Each step holds s actions)
  | _, [] => isTrue trivial
  | s, a :: rest =>
    have : DecidablePred fun t => Each step holds t rest := fun t => Each.decidable t rest
    inferInstanceAs (Decidable (holds s a ∧ ∀ t ∈ step s a, Each step holds t rest))

@[simp] theorem run_nil (s : State) : run step s [] = some s := rfl

@[simp] theorem run_cons (s : State) (a : Action) (rest : List Action) :
    run step s (a :: rest) = (step s a).bind (run step · rest) := rfl

@[simp] theorem each_nil (s : State) : Each step holds s [] := trivial

@[simp] theorem each_cons (s : State) (a : Action) (rest : List Action) :
    Each step holds s (a :: rest) ↔ holds s a ∧ ∀ t ∈ step s a, Each step holds t rest := Iff.rfl

theorem Each.cons {s t : State} {a : Action} {rest : List Action} (taken : step s a = some t)
    (first : holds s a) (later : Each step holds t rest) : Each step holds s (a :: rest) :=
  ⟨first, fun _ same => Option.some.inj (taken.symm.trans same) ▸ later⟩

theorem Leads.reached {s t : State} {a : Action} (leads : Leads step good s a)
    (taken : step s a = some t) : good t := by
  obtain ⟨u, same, final⟩ := leads
  exact Option.some.inj (same.symm.trans taken) ▸ final

theorem leads_iff {s t : State} {a : Action} (taken : step s a = some t) :
    Leads step good s a ↔ good t :=
  ⟨fun leads => leads.reached taken, fun final => ⟨t, taken, final⟩⟩

theorem run_append (s : State) (before after : List Action) :
    run step s (before ++ after) = (run step s before).bind (run step · after) := by
  induction before generalizing s with
  | nil => rfl
  | cons a rest ih =>
    simp only [List.cons_append, run_cons, Option.bind_assoc]
    congr 1
    funext t
    exact ih t

theorem each_append (s : State) (before after : List Action) :
    Each step holds s (before ++ after) ↔
      Each step holds s before ∧ ∀ t ∈ run step s before, Each step holds t after := by
  induction before generalizing s with
  | nil => simp
  | cons a rest ih =>
    simp only [List.cons_append, each_cons, run_cons, Option.mem_def, Option.bind_eq_some_iff]
    constructor
    · rintro ⟨first, later⟩
      exact ⟨⟨first, fun t taken => ((ih t).mp (later t taken)).1⟩,
        fun u ⟨t, taken, rest⟩ => ((ih t).mp (later t taken)).2 u rest⟩
    · rintro ⟨⟨first, later⟩, tail⟩
      exact ⟨first, fun t taken => (ih t).mpr ⟨later t taken, fun u rest => tail u ⟨t, taken, rest⟩⟩⟩

theorem each_and (s : State) (actions : List Action) :
    Each step (fun s a => allowed s a ∧ holds s a) s actions ↔
      Each step allowed s actions ∧ Each step holds s actions := by
  induction actions generalizing s with
  | nil => simp
  | cons a rest ih =>
    simp only [each_cons, ih]
    constructor
    · rintro ⟨⟨left, right⟩, later⟩
      exact ⟨⟨left, fun t taken => (later t taken).1⟩, right, fun t taken => (later t taken).2⟩
    · rintro ⟨⟨left, before⟩, right, after⟩
      exact ⟨⟨left, right⟩, fun t taken => ⟨before t taken, after t taken⟩⟩

theorem each_trivial (s : State) (actions : List Action) : Each step (fun _ _ => True) s actions := by
  induction actions generalizing s with
  | nil => trivial
  | cons a rest ih => exact ⟨trivial, fun t _ => ih t⟩

theorem each_congr {condition : State → Action → Prop} (same : ∀ s a, holds s a ↔ condition s a)
    (s : State) (actions : List Action) :
    Each step holds s actions ↔ Each step condition s actions := by
  induction actions generalizing s with
  | nil => simp
  | cons a rest ih => simp only [each_cons, same, ih]

/-- A condition on the actions alone. -/
theorem each_of_forall {condition : Action → Prop} {actions : List Action}
    (all : ∀ a ∈ actions, condition a) (s : State) :
    Each step (fun _ a => condition a) s actions := by
  induction actions generalizing s with
  | nil => trivial
  | cons a rest ih =>
    exact ⟨all a List.mem_cons_self, fun t _ => ih (fun b later => all b (List.mem_cons_of_mem a later)) t⟩

theorem each_iff_forall {condition : Action → Prop} (total : ∀ s a, ∃ t, step s a = some t) (s : State)
    (actions : List Action) :
    Each step (fun _ a => condition a) s actions ↔ ∀ a ∈ actions, condition a := by
  constructor
  · intro each
    induction actions generalizing s with
    | nil => simp
    | cons a rest ih =>
      obtain ⟨t, taken⟩ := total s a
      exact List.forall_mem_cons.mpr ⟨each.1, ih t (each.2 t taken)⟩
  · exact fun all => each_of_forall all s

/-- An invariant every step keeps holds at the end of every run. -/
theorem run_preserves (kept : ∀ s a t, invariant s → step s a = some t → invariant t)
    {s t : State} {actions : List Action} (start : invariant s)
    (reached : run step s actions = some t) : invariant t := by
  induction actions generalizing s with
  | nil => exact Option.some.inj reached ▸ start
  | cons a rest ih =>
    obtain ⟨middle, first, later⟩ := Option.bind_eq_some_iff.mp reached
    exact ih (kept s a middle start first) later

/-- Where every step of a run leads to a good state, the run ends in one. -/
theorem Each.reached {s t : State} {actions : List Action} (start : good s)
    (each : Each step (Leads step good) s actions) (final : run step s actions = some t) :
    good t := by
  induction actions generalizing s with
  | nil => exact Option.some.inj final ▸ start
  | cons a rest ih =>
    obtain ⟨middle, first, later⟩ := Option.bind_eq_some_iff.mp final
    exact ih (each.1.reached first) (each.2 middle first) later

/-- When every allowed step from the invariant has an outcome and keeps it, a
run of allowed actions never gets stuck and ends in it. -/
theorem run_guarded (kept : ∀ s a, invariant s → allowed s a → Leads step invariant s a)
    {s : State} {actions : List Action} (start : invariant s)
    (guarded : Each step allowed s actions) :
    ∃ t, run step s actions = some t ∧ invariant t := by
  induction actions generalizing s with
  | nil => exact ⟨s, rfl, start⟩
  | cons a rest ih =>
    obtain ⟨middle, first, inside⟩ := kept s a start guarded.1
    obtain ⟨t, reached, final⟩ := ih inside (guarded.2 middle first)
    exact ⟨t, by rw [run_cons, first]; exact reached, final⟩

/-- A property the invariant gives every allowed step holds of each step of a
run of allowed actions. -/
theorem each_of_guarded (kept : ∀ s a t, invariant s → allowed s a → step s a = some t → invariant t)
    (gives : ∀ s a, invariant s → allowed s a → holds s a)
    {s : State} {actions : List Action} (start : invariant s)
    (guarded : Each step allowed s actions) : Each step holds s actions := by
  induction actions generalizing s with
  | nil => trivial
  | cons a rest ih =>
    exact ⟨gives s a start guarded.1,
      fun t taken => ih (kept s a t start guarded.1 taken) (guarded.2 t taken)⟩

/-- Exactness: where at every allowed step the property is equivalent to a
condition, and the condition keeps the invariant under which it is, the runs of
allowed actions with the property are those whose actions all meet the
condition. -/
theorem each_iff_each {condition : State → Action → Prop}
    (exact_step : ∀ s a, invariant s → allowed s a → (holds s a ↔ condition s a))
    (kept : ∀ s a t, invariant s → allowed s a → condition s a → step s a = some t → invariant t)
    {s : State} {actions : List Action} (start : invariant s)
    (guarded : Each step allowed s actions) :
    Each step holds s actions ↔ Each step condition s actions := by
  induction actions generalizing s with
  | nil => simp
  | cons a rest ih =>
    have first := exact_step s a start guarded.1
    constructor
    · rintro ⟨now, later⟩
      have met := first.mp now
      exact ⟨met, fun t taken =>
        (ih (kept s a t start guarded.1 met taken) (guarded.2 t taken)).mp (later t taken)⟩
    · rintro ⟨met, later⟩
      exact ⟨first.mpr met, fun t taken =>
        (ih (kept s a t start guarded.1 met taken) (guarded.2 t taken)).mpr (later t taken)⟩

/-- What the allowed actions preserve holds at the end of every run of them. -/
theorem run_preserves_guarded
    (kept : ∀ s a t, invariant s → allowed s a → step s a = some t → invariant t)
    {s t : State} {actions : List Action} (start : invariant s)
    (guarded : Each step allowed s actions) (reached : run step s actions = some t) :
    invariant t := by
  induction actions generalizing s with
  | nil => exact Option.some.inj reached ▸ start
  | cons a rest ih =>
    obtain ⟨middle, first, later⟩ := Option.bind_eq_some_iff.mp reached
    exact ih (kept s a middle start guarded.1 first) (guarded.2 middle first) later

/-! ## Bounded runs -/

/-- Where every allowed action takes its weight from a measure, a run weighs no more than the
measure had to give. -/
theorem run_measured (measure : State → Nat) (weight : Action → Nat)
    (takes : ∀ s a t, allowed s a → step s a = some t → measure t + weight a ≤ measure s)
    {s t : State} {actions : List Action} (guarded : Each step allowed s actions)
    (reached : run step s actions = some t) :
    measure t + (actions.map weight).sum ≤ measure s := by
  induction actions generalizing s with
  | nil =>
    obtain rfl := Option.some.inj reached
    simp
  | cons a rest ih =>
    obtain ⟨middle, first, later⟩ := Option.bind_eq_some_iff.mp reached
    have now := takes s a middle guarded.1 first
    have after := ih (guarded.2 middle first) later
    rw [List.map_cons, List.sum_cons]
    omega

/-! ## Two levels -/

/-- Where every step of the one level is, seen through `view`, the other level's step of the
same action, so is every run. -/
theorem run_view {Abstract : Type*} {abstractStep : Abstract → Action → Option Abstract}
    {view : State → Abstract}
    (commutes : ∀ s a, (step s a).map view = abstractStep (view s) a) (s : State)
    (actions : List Action) :
    (run step s actions).map view = run abstractStep (view s) actions := by
  induction actions generalizing s with
  | nil => rfl
  | cons a rest ih =>
    have first := commutes s a
    cases taken : step s a with
    | none =>
      rw [taken, Option.map_none] at first
      rw [run_cons, run_cons, taken, ← first]
      rfl
    | some t =>
      rw [taken, Option.map_some] at first
      rw [run_cons, run_cons, taken, ← first, Option.bind_some, Option.bind_some]
      exact ih t

/-- What the actions of a run emit, in order. -/
def trace {Event : Type*} (step : State → Action → Option State) (emit : State → Action → List Event) :
    State → List Action → List Event
  | _, [] => []
  | s, a :: rest => emit s a ++ ((step s a).map (trace step emit · rest)).getD []

/-- Forward simulation: where every allowed step is matched by a run of what it emits, every run of
allowed actions is matched by the run of its trace. -/
theorem run_simulated {Abstract Event : Type*} {abstractStep : Abstract → Event → Option Abstract}
    {emit : State → Action → List Event} {related : State → Abstract → Prop}
    (matched : ∀ s a t r, related s r → allowed s a → step s a = some t →
      ∃ r', run abstractStep r (emit s a) = some r' ∧ related t r')
    {s t : State} {r : Abstract} {actions : List Action} (start : related s r)
    (guarded : Each step allowed s actions) (reached : run step s actions = some t) :
    ∃ r', run abstractStep r (trace step emit s actions) = some r' ∧ related t r' := by
  induction actions generalizing s r with
  | nil =>
    obtain rfl := Option.some.inj reached
    exact ⟨r, rfl, start⟩
  | cons a rest ih =>
    obtain ⟨middle, first, later⟩ := Option.bind_eq_some_iff.mp reached
    obtain ⟨between, emitted, now⟩ := matched s a middle r start guarded.1 first
    obtain ⟨final, onward, after⟩ := ih now (guarded.2 middle first) later
    refine ⟨final, ?_, after⟩
    rw [trace, first, Option.map_some, Option.getD_some, run_append, emitted, Option.bind_some, onward]

/-! ## Systems side by side -/

section Family
variable {Index : Type*} [DecidableEq Index] {Local Act : Index → Type*}

/-- One system of a family takes a step, the others stand still. -/
def familyStep (step : ∀ i, Local i → Act i → Option (Local i)) (s : ∀ i, Local i) :
    (Σ i, Act i) → Option (∀ i, Local i)
  | ⟨i, a⟩ => (step i (s i) a).map (Function.update s i)

/-- What the one system does in a run of the family. -/
def actionsOf (i : Index) (actions : List (Σ i, Act i)) : List (Act i) :=
  actions.filterMap fun a => if same : a.1 = i then some (same ▸ a.2) else none

variable {step : ∀ i, Local i → Act i → Option (Local i)} {s t : ∀ i, Local i} {i j : Index}

theorem actionsOf_same (a : Act i) (rest : List (Σ i, Act i)) :
    actionsOf i (⟨i, a⟩ :: rest) = a :: actionsOf i rest := by
  simp [actionsOf]

theorem actionsOf_other (different : j ≠ i) (a : Act j) (rest : List (Σ i, Act i)) :
    actionsOf i (⟨j, a⟩ :: rest) = actionsOf i rest := by
  simp [actionsOf, different]

/-- Each system of the family makes a run of its own. -/
theorem run_family {actions : List (Σ i, Act i)} (reached : run (familyStep step) s actions = some t)
    (i : Index) : run (step i) (s i) (actionsOf i actions) = some (t i) := by
  induction actions generalizing s with
  | nil =>
    obtain rfl := Option.some.inj reached
    rfl
  | cons a rest ih =>
    obtain ⟨middle, first, later⟩ := Option.bind_eq_some_iff.mp reached
    obtain ⟨j, action⟩ := a
    obtain ⟨moved, taken, rfl⟩ := Option.map_eq_some_iff.mp first
    have onward := ih later
    by_cases same : j = i
    · subst same
      rw [Function.update_self] at onward
      rw [actionsOf_same, run_cons, taken, Option.bind_some, onward]
    · rw [Function.update_of_ne (Ne.symm same)] at onward
      rw [actionsOf_other same, onward]

end Family

end LddLearn.Library.Run
