import LddLearn.Chardev.Interleaved

/-!
# References under races

`device_open` takes its module reference last and `device_release` puts it last, so that the
kernel lets the module go at no time between. Statement by statement, races included, there are as
many references as files between the two exactly as long as every open gets the reference it
asks for. Before it asks, and after it has put, a call runs without one.
-/

set_option autoImplicit false

namespace LddLearn.Chardev.Interleaved
open LddLearn.Library LddLearn.Library.Run

/-- The process is past `try_module_get` and has not called `module_put`. -/
def Place.Holds : Place → Prop
  | .opened | .reading _ _ _ _ | .released => True
  | .closed | .tested _ | .claimed _ | .printing _ _ _ | .printed _ | .pointed _ => False

section Statements
variable {Process : Type}

/-- There are as many module references as files that should hold one. -/
def RefsHeld (s : State Process) : Prop :=
  ∃ count, Tally (fun l : Local => l.place.Holds) s.processes count ∧ s.dev.moduleRefs = count

/-- The reference an open asks for is granted. -/
def Granted (s : State Process) : Process × Move → Prop
  | (p, .go) => ∀ moduleGet, (s.processes p).place = .pointed moduleGet → moduleGet = true
  | (_, _) => True

/-- Nothing is open once the module may go. -/
theorem RefsHeld.removable_iff {s : State Process} (held : RefsHeld s) :
    s.dev.moduleRefs = 0 ↔ ∀ p, ¬ (s.processes p).place.Holds := by
  obtain ⟨count, tally, refs⟩ := held
  rw [refs, ← tally.eq_zero_iff]
  exact Int.natCast_eq_zero

theorem RefsHeld.boot (behind : Nat → Byte) : RefsHeld (.boot behind : State Process) :=
  ⟨0, .start fun _ => id, rfl⟩

end Statements

variable {increment : Int → Int} {dev dev' : Device} {l l' : Local} {m : Move}

/-- A statement takes a reference, puts one, or does neither. -/
inductive RefMoved (dev : Device) (l : Local) (m : Move) (dev' : Device) (l' : Local) : Prop
  | get {moduleGet : Bool} (go : m = .go) (place : l.place = .pointed moduleGet) (holds : l'.place.Holds)
    (refs : dev'.moduleRefs = if moduleGet then dev.moduleRefs + 1 else dev.moduleRefs)
  | put (place : l.place = .released) (done : ¬ l'.place.Holds) (refs : dev'.moduleRefs = dev.moduleRefs - 1)
  | neither (other : m = .go → ∀ moduleGet, l.place ≠ .pointed moduleGet)
    (holds : l'.place.Holds ↔ l.place.Holds) (refs : dev'.moduleRefs = dev.moduleRefs)

theorem advance_refs (taken : advance increment dev l = some (dev', l')) : RefMoved dev l .go dev' l' := by
  obtain ⟨place, answer, delivered⟩ := l
  cases place with
  | closed => simp [advance] at taken
  | opened => simp [advance] at taken
  | tested moduleGet =>
    obtain ⟨rfl, rfl⟩ := Prod.mk.inj (Option.some.inj taken)
    exact .neither (by simp) Iff.rfl rfl
  | claimed moduleGet =>
    obtain ⟨rfl, rfl⟩ := Prod.mk.inj (Option.some.inj taken)
    exact .neither (by simp) Iff.rfl rfl
  | printing address text moduleGet =>
    cases text with
    | nil =>
      obtain ⟨rfl, rfl⟩ := Prod.mk.inj (Option.some.inj taken)
      exact .neither (by simp) Iff.rfl rfl
    | cons byte text =>
      obtain ⟨rfl, rfl⟩ := Prod.mk.inj (Option.some.inj taken)
      exact .neither (by simp) Iff.rfl rfl
  | printed moduleGet =>
    obtain ⟨rfl, rfl⟩ := Prod.mk.inj (Option.some.inj taken)
    exact .neither (by simp) Iff.rfl rfl
  | pointed moduleGet =>
    obtain ⟨rfl, rfl⟩ := Prod.mk.inj (Option.some.inj taken)
    exact .get rfl rfl trivial rfl
  | released =>
    obtain ⟨rfl, rfl⟩ := Prod.mk.inj (Option.some.inj taken)
    exact .put rfl id rfl
  | reading faults size buffer bytesRead =>
    cases size with
    | zero =>
      obtain ⟨rfl, rfl⟩ := Prod.mk.inj (Option.some.inj taken)
      exact .neither (by simp) Iff.rfl rfl
    | succ size =>
      obtain ⟨msgPtr, pointer, round⟩ := Option.map_eq_some_iff.mp taken
      by_cases ended : dev.mem msgPtr = 0
      · rw [readRound, if_pos ended] at round
        obtain ⟨rfl, rfl⟩ := Prod.mk.inj round
        exact .neither (by simp) Iff.rfl rfl
      · rw [readRound, if_neg ended] at round
        obtain ⟨rfl, rfl⟩ := Prod.mk.inj round
        exact .neither (by simp) Iff.rfl rfl

theorem move_refs (taken : move increment dev l m = some (dev', l')) : RefMoved dev l m dev' l' := by
  cases m with
  | go => exact advance_refs taken
  | «open» moduleGet =>
    cases move_cases taken with
    | busy place claimed => exact .neither (by simp) Iff.rfl rfl
    | test place free => exact .neither (by simp) (by simp [place, Place.Holds]) rfl
  | read size buffer faults =>
    cases move_cases taken with
    | enter place pointer =>
      refine .neither (by simp) (iff_of_true ?_ (by rw [place]; trivial)) rfl
      unfold enterRead
      split
      · rw [place]
        trivial
      · trivial
  | release =>
    cases move_cases taken with
    | release place => exact .neither (by simp) (by simp [place, Place.Holds]) rfl

section Runs
variable {Process : Type} [DecidableEq Process] {s t : State Process}

omit [DecidableEq Process] in
theorem granted_of_not_pointed {p : Process} {m : Move}
    (other : m = .go → ∀ moduleGet, (s.processes p).place ≠ .pointed moduleGet) : Granted s (p, m) := by
  cases m with
  | go => exact fun moduleGet place => absurd place (other rfl moduleGet)
  | _ => trivial

theorem refsHeld_step_iff {a : Process × Move} (before : RefsHeld s)
    (taken : step increment s a = some t) : RefsHeld t ↔ Granted s a := by
  obtain ⟨count, tally, held⟩ := before
  obtain ⟨⟨dev, l⟩, moved, rfl⟩ := Option.map_eq_some_iff.mp taken
  obtain ⟨p, m⟩ := a
  cases move_refs moved with
  | @get moduleGet go place holds refs =>
    obtain rfl : m = .go := go
    have more : Tally (fun l : Local => l.place.Holds) (Function.update s.processes p l) (count + 1) :=
      tally.arrives (by simp [place, Place.Holds]) holds
    constructor
    · rintro ⟨counted, again, same⟩ other pointed
      obtain rfl : moduleGet = other := Place.pointed.inj (place.symm.trans pointed)
      obtain rfl := more.unique again
      cases moduleGet with
      | true => rfl
      | false =>
        have unmoved : dev.moduleRefs = s.dev.moduleRefs := refs
        have moved : dev.moduleRefs = ((count + 1 : Nat) : Int) := same
        omega
    · intro granted
      obtain rfl := granted moduleGet place
      refine ⟨count + 1, more, ?_⟩
      have taken : dev.moduleRefs = s.dev.moduleRefs + 1 := refs
      change dev.moduleRefs = _
      omega
  | put place done refs =>
    have notPointed (moduleGet : Bool) : (s.processes p).place ≠ .pointed moduleGet := by
      simp [show (s.processes p).place = .released from place]
    refine iff_of_true ?_ (granted_of_not_pointed fun _ => notPointed)
    obtain ⟨less, rfl, left⟩ := tally.leaves (show (s.processes p).place.Holds by
      rw [show (s.processes p).place = .released from place]; trivial) done
    refine ⟨less, left, ?_⟩
    change dev.moduleRefs = _
    omega
  | neither other holds refs =>
    exact iff_of_true ⟨count, tally.stays holds, refs.trans held⟩ (granted_of_not_pointed other)

theorem granted_of_stuck {a : Process × Move} (stuck : step increment s a = none) : Granted s a := by
  obtain ⟨p, m⟩ := a
  refine granted_of_not_pointed fun go moduleGet place => ?_
  subst go
  simp [step, move, advance, place] at stuck

/-- In every interleaving, races of opens included: there are all along as many references as
files past `try_module_get` and before `module_put` exactly as long as each reference asked for is
granted, so that then the module may go only when no such file is left. -/
theorem references_held_iff (increment : Int → Int) (behind : Nat → Byte)
    (actions : List (Process × Move)) :
    (Each (step increment) (fun s a => ∀ t ∈ step increment s a, RefsHeld t) (.boot behind) actions ↔
        Each (step increment) Granted (.boot behind) actions) ∧
      (Each (step increment) Granted (.boot behind) actions →
        ∀ s ∈ run (step increment) (.boot behind) actions,
          (s.dev.moduleRefs = 0 ↔ ∀ p, ¬ (s.processes p).place.Holds)) := by
  have exact_step (s : State Process) (a : Process × Move) (before : RefsHeld s) (_ : True) :
      (∀ t ∈ step increment s a, RefsHeld t) ↔ Granted s a := by
    cases taken : step increment s a with
    | none => simp [granted_of_stuck taken]
    | some t => simp [refsHeld_step_iff before taken]
  have kept (s : State Process) (a : Process × Move) (t : State Process) (before : RefsHeld s)
      (granted : Granted s a) (taken : step increment s a = some t) : RefsHeld t :=
    (refsHeld_step_iff before taken).mpr granted
  constructor
  · exact each_iff_each exact_step (fun s a t before _ => kept s a t before) (.boot behind)
      (each_trivial _ actions)
  · intro granted s reached
    exact (run_preserves_guarded kept (RefsHeld.boot behind) granted reached).removable_iff

end Runs

/-- Inside `device_open`, and no reference taken yet. -/
example : (run (step naturalIncrement) (State.boot fun _ => 255) [(false, .open true), (false, .go)]).any
    (fun s => decide (s.dev.moduleRefs = 0 ∧ (s.processes false).place.Inside)) = true := by
  decide +kernel

end LddLearn.Chardev.Interleaved
