import LddLearn.Chardev.Session
import LddLearn.Library.Tally

/-!
# Calls that run at the same time

`device_open` tests `has_open`, and increments it in a statement of its own; nothing keeps a
second open from running between the two. Here processes run their calls statement by statement,
in any order. `has_open` always counts the files that have claimed it; that there is one at most
rests on no two opens being between test and increment at once, and then the statements amount
to whole calls, one after the other. All along `msg_buff` is taken as large enough for the message,
so that `sprintf` leaves `has_open` alone.
-/

set_option autoImplicit false

namespace LddLearn.Chardev.Interleaved
open LddLearn.Library LddLearn.Library.Run

/-! ## Statements -/

/-- Where a process stands in `device_open`, `device_read` or `device_release`, or that it runs
none of them. -/
inductive Place where
  | closed
  /-- `has_open` was 0 -/
  | tested (moduleGet : Bool)
  | claimed (moduleGet : Bool)
  /-- `sprintf` has to write `text` and the NUL from `address` on -/
  | printing (address : Nat) (text : List Byte) (moduleGet : Bool)
  | printed (moduleGet : Bool)
  | pointed (moduleGet : Bool)
  | opened
  /-- at the head of the loop of `device_read` -/
  | reading (faults : Nat → Bool) (size buffer : Nat) (bytesRead : Int)
  /-- `module_put` is left -/
  | released

/-- A process with the answer of its last call and the bytes it has stored since its last open. -/
structure Local where
  place : Place
  answer : Option Int
  delivered : List Byte

structure State (Process : Type) where
  dev : Device
  processes : Process → Local

def State.boot {Process : Type} (behind : Nat → Byte) : State Process :=
  ⟨.boot behind, fun _ => ⟨.closed, none, []⟩⟩

/-- A call with its first statement, or the next statement of a call. -/
inductive Move where
  | open (moduleGet : Bool)
  | read (size buffer : Nat) (faults : Nat → Bool)
  | release
  | go

/-- `try_module_get`, which may turn the reference down. -/
def withRef (moduleGet : Bool) (dev : Device) : Device :=
  { dev with moduleRefs := if moduleGet then dev.moduleRefs + 1 else dev.moduleRefs }

/-- One round of the loop of `device_read`, at `msg_ptr`. -/
def readRound (dev : Device) (l : Local) (faults : Nat → Bool) (size buffer : Nat) (bytesRead : Int)
    (msgPtr : Nat) : Device × Local :=
  if dev.mem msgPtr = 0 then (dev, { l with place := .opened, answer := some bytesRead })
  else
    ({ dev with msgPtr := some (msgPtr + 1) },
      { l with
        place := .reading faults size (buffer + 1) (bytesRead + 1)
        delivered := if faults buffer then l.delivered else l.delivered ++ [dev.mem msgPtr] })

def advance (increment : Int → Int) (dev : Device) (l : Local) : Option (Device × Local) :=
  match l.place with
  | .closed => none
  | .tested moduleGet =>
    some ({ dev with hasOpen := dev.hasOpen + 1 }, { l with place := .claimed moduleGet, delivered := [] })
  | .claimed moduleGet =>
    let counter := increment dev.counter
    some ({ dev with
        counter
        sprintfSizes := ((message counter).length + 1) :: dev.sprintfSizes },
      { l with place := .printing 0 (message counter) moduleGet })
  | .printing address (byte :: text) moduleGet =>
    some ({ dev with mem := Function.update dev.mem address byte },
      { l with place := .printing (address + 1) text moduleGet })
  | .printing address [] moduleGet =>
    some ({ dev with mem := Function.update dev.mem address 0 }, { l with place := .printed moduleGet })
  | .printed moduleGet => some ({ dev with msgPtr := some 0 }, { l with place := .pointed moduleGet })
  | .pointed moduleGet =>
    some (withRef moduleGet dev, { l with place := .opened, answer := some NO_ERROR })
  | .opened => none
  | .reading _ 0 _ bytesRead => some (dev, { l with place := .opened, answer := some bytesRead })
  | .reading faults (size + 1) buffer bytesRead =>
    dev.msgPtr.map (readRound dev l faults size buffer bytesRead)
  | .released =>
    some ({ dev with moduleRefs := dev.moduleRefs - 1 },
      { l with place := .closed, answer := some NO_ERROR })

/-- The test in front of the loop of `device_read`. -/
def enterRead (dev : Device) (l : Local) (size buffer : Nat) (faults : Nat → Bool) (msgPtr : Nat) : Local :=
  if dev.mem msgPtr = 0 then { l with answer := some 0 }
  else { l with place := .reading faults size buffer 0 }

def move (increment : Int → Int) (dev : Device) (l : Local) : Move → Option (Device × Local)
  | .open moduleGet =>
    match l.place with
    | .closed =>
      if dev.hasOpen ≠ 0 then some (dev, { l with answer := some (-EBUSY) })
      else some (dev, { l with place := .tested moduleGet })
    | _ => none
  | .read size buffer faults =>
    match l.place with
    | .opened => dev.msgPtr.map fun msgPtr => (dev, enterRead dev l size buffer faults msgPtr)
    | _ => none
  | .release =>
    match l.place with
    | .opened => some ({ dev with hasOpen := dev.hasOpen - 1 }, { l with place := .released })
    | _ => none
  | .go => advance increment dev l

section Step
variable {Process : Type} [DecidableEq Process]

def step (increment : Int → Int) (s : State Process) (a : Process × Move) : Option (State Process) :=
  (move increment s.dev (s.processes a.1) a.2).map fun (dev, l) =>
    ⟨dev, Function.update s.processes a.1 l⟩

end Step

/-! ## Who is inside -/

/-- The process has incremented `has_open` and not decremented it since. -/
def Place.Inside : Place → Prop
  | .closed | .tested _ | .released => False
  | .claimed _ | .printing _ _ _ | .printed _ | .pointed _ | .opened | .reading _ _ _ _ => True

/-- The process has found `has_open` 0 and not incremented it yet. -/
def Place.Tested : Place → Prop
  | .tested _ => True
  | _ => False

/-- `module_put` is left. -/
def Place.Released : Place → Prop
  | .released => True
  | _ => False

instance : DecidablePred Place.Inside
  | .closed | .tested _ | .released => isFalse id
  | .claimed _ | .printing _ _ _ | .printed _ | .pointed _ | .opened | .reading _ _ _ _ => isTrue trivial

instance : DecidablePred Place.Tested
  | .tested _ => isTrue trivial
  | .closed | .released | .claimed _ | .printing _ _ _ | .printed _ | .pointed _ | .opened
  | .reading _ _ _ _ => isFalse id

/-- The process runs no call and has no file open. -/
def Place.Closed : Place → Prop
  | .closed => True
  | _ => False

instance : DecidablePred Place.Closed
  | .closed => isTrue trivial
  | .tested _ | .released | .claimed _ | .printing _ _ _ | .printed _ | .pointed _ | .opened
  | .reading _ _ _ _ => isFalse id

/-- The process has passed the test of `has_open` and not given it back. -/
def Place.Admitted (place : Place) : Prop := place.Tested ∨ place.Inside

section Statements
variable {Process : Type}

/-- One process at most is admitted. -/
def Exclusive (s : State Process) : Prop :=
  ∀ p q, (s.processes p).place.Admitted → (s.processes q).place.Admitted → p = q

/-- No open passes the test of `has_open` while another is between test and increment. -/
def Undisturbed (s : State Process) : Process × Move → Prop
  | (p, .open _) => (s.processes p).place.Closed → s.dev.hasOpen = 0 →
    ∀ q, ¬ (s.processes q).place.Tested
  | (_, _) => True

instance [Fintype Process] (s : State Process) : ∀ a : Process × Move, Decidable (Undisturbed s a)
  | (p, .open _) => inferInstanceAs (Decidable ((s.processes p).place.Closed → s.dev.hasOpen = 0 →
    ∀ q, ¬ (s.processes q).place.Tested))
  | (_, .read _ _ _) | (_, .release) | (_, .go) => isTrue trivial

/-- `has_open` is the number of files that have claimed it. -/
def FlagCounts (s : State Process) : Prop :=
  ∃ count, Tally (fun l : Local => l.place.Inside) s.processes count ∧ s.dev.hasOpen = count

theorem FlagCounts.free_iff {s : State Process} (counts : FlagCounts s) :
    s.dev.hasOpen = 0 ↔ ∀ p, ¬ (s.processes p).place.Inside := by
  obtain ⟨count, tally, flag⟩ := counts
  rw [flag, ← tally.eq_zero_iff]
  exact Int.natCast_eq_zero

end Statements

/-! ## The end of a call -/

/-- What is left of a call, run to its end. -/
def settle (increment : Int → Int) (dev : Device) (l : Local) : Device × Local :=
  match l.place with
  | .closed | .tested _ | .opened => (dev, l)
  | .claimed moduleGet =>
    let counter := increment dev.counter
    (withRef moduleGet { dev with
        counter
        mem := CString.store 0 dev.mem 0 (message counter)
        msgPtr := some 0
        sprintfSizes := ((message counter).length + 1) :: dev.sprintfSizes },
      { l with place := .opened, answer := some NO_ERROR })
  | .printing address text moduleGet =>
    (withRef moduleGet { dev with mem := CString.store 0 dev.mem address text, msgPtr := some 0 },
      { l with place := .opened, answer := some NO_ERROR })
  | .printed moduleGet =>
    (withRef moduleGet { dev with msgPtr := some 0 }, { l with place := .opened, answer := some NO_ERROR })
  | .pointed moduleGet => (withRef moduleGet dev, { l with place := .opened, answer := some NO_ERROR })
  | .reading faults size buffer bytesRead =>
    match dev.msgPtr with
    | none => (dev, { l with place := .opened, answer := some bytesRead })
    | some msgPtr =>
      let (more, stores, last) := readLoop faults dev.mem size msgPtr buffer
      ({ dev with msgPtr := some last },
        ⟨.opened, some (bytesRead + more), l.delivered ++ stores.map (·.2)⟩)
  | .released =>
    ({ dev with moduleRefs := dev.moduleRefs - 1 }, { l with place := .closed, answer := some NO_ERROR })

/-- The device after `puts` calls of `module_put`. -/
def dropRefs (puts : Nat) (dev : Device) : Device := { dev with moduleRefs := dev.moduleRefs - puts }

variable {increment : Int → Int} {dev dev' : Device} {l l' : Local} {m : Move}

theorem withRef_dropRefs (moduleGet : Bool) (puts : Nat) (dev : Device) :
    withRef moduleGet (dropRefs puts dev) = dropRefs puts (withRef moduleGet dev) := by
  cases moduleGet with
  | false => rfl
  | true =>
    simp only [withRef, dropRefs, if_true, Device.mk.injEq, true_and, and_true]
    omega

theorem dropRefs_dropRefs (first second : Nat) (dev : Device) :
    dropRefs second (dropRefs first dev) = dropRefs (first + second) dev := by
  simp only [dropRefs, Device.mk.injEq, true_and, and_true]
  omega

/-- References put elsewhere do not matter to a call under way. -/
theorem settle_dropRefs (inside : l.place.Inside) (puts : Nat) (dev : Device) :
    settle increment (dropRefs puts dev) l =
      (dropRefs puts (settle increment dev l).1, (settle increment dev l).2) := by
  obtain ⟨place, answer, delivered⟩ := l
  cases place with
  | closed => exact inside.elim
  | tested moduleGet => exact inside.elim
  | released => exact inside.elim
  | claimed moduleGet =>
    simp only [settle]
    rw [← withRef_dropRefs]
    rfl
  | printing address text moduleGet =>
    simp only [settle]
    rw [← withRef_dropRefs]
    rfl
  | printed moduleGet =>
    simp only [settle]
    rw [← withRef_dropRefs]
    rfl
  | pointed moduleGet =>
    simp only [settle]
    rw [← withRef_dropRefs]
  | opened => rfl
  | reading faults size buffer bytesRead =>
    cases pointer : dev.msgPtr with
    | none => simp [settle, dropRefs, pointer]
    | some msgPtr => simp [settle, dropRefs, pointer]

theorem settle_hasOpen (increment : Int → Int) (dev : Device) (l : Local) :
    (settle increment dev l).1.hasOpen = dev.hasOpen := by
  unfold settle
  cases l.place with
  | reading faults size buffer bytesRead => cases dev.msgPtr <;> rfl
  | _ => rfl

theorem settle_delivered (increment : Int → Int) (dev : Device) (l : Local) :
    l.delivered <+: (settle increment dev l).2.delivered := by
  obtain ⟨place, answer, delivered⟩ := l
  cases place with
  | reading faults size buffer bytesRead =>
    cases pointer : dev.msgPtr with
    | none => simp [settle, pointer]
    | some msgPtr => simp [settle, pointer]
  | _ => exact List.prefix_rfl

/-- What a process that is not inside has been answered does not depend on the device. -/
theorem settle_answer (outside : ¬ l.place.Inside) :
    (settle increment dev l).2.answer = (settle increment dev' l).2.answer := by
  obtain ⟨place, answer, delivered⟩ := l
  cases place with
  | closed => rfl
  | tested moduleGet => rfl
  | released => rfl
  | _ => exact absurd trivial outside

/-! ## What a move does -/

/-- A statement opens or closes the file, or goes on with a call and does not change what it
comes to. -/
inductive Moved (increment : Int → Int) (dev : Device) (l : Local) : Move → Device → Local → Prop
  | busy {moduleGet : Bool} (place : l.place = .closed) (claimed : dev.hasOpen ≠ 0) :
    Moved increment dev l (.open moduleGet) dev { l with answer := some (-EBUSY) }
  | test {moduleGet : Bool} (place : l.place = .closed) (free : dev.hasOpen = 0) :
    Moved increment dev l (.open moduleGet) dev { l with place := .tested moduleGet }
  | claim {moduleGet : Bool} (place : l.place = .tested moduleGet) :
    Moved increment dev l .go { dev with hasOpen := dev.hasOpen + 1 }
      { l with place := .claimed moduleGet, delivered := [] }
  | within {dev' : Device} {l' : Local} (before : l.place.Inside) (after : l'.place.Inside)
    (same : settle increment dev' l' = settle increment dev l) (flag : dev'.hasOpen = dev.hasOpen) :
    Moved increment dev l .go dev' l'
  | enter {size buffer : Nat} {faults : Nat → Bool} {msgPtr : Nat} (place : l.place = .opened)
    (pointer : dev.msgPtr = some msgPtr) :
    Moved increment dev l (.read size buffer faults) dev (enterRead dev l size buffer faults msgPtr)
  | release (place : l.place = .opened) :
    Moved increment dev l .release { dev with hasOpen := dev.hasOpen - 1 } { l with place := .released }
  | put (place : l.place = .released) :
    Moved increment dev l .go (dropRefs 1 dev) { l with place := .closed, answer := some NO_ERROR }

/-- A round of the loop leaves the rest of it. -/
theorem settle_readRound {faults : Nat → Bool} {size buffer msgPtr : Nat} {bytesRead : Int}
    (place : l.place = .reading faults (size + 1) buffer bytesRead) (pointer : dev.msgPtr = some msgPtr) :
    settle increment (readRound dev l faults size buffer bytesRead msgPtr).1
        (readRound dev l faults size buffer bytesRead msgPtr).2 = settle increment dev l := by
  have standing : { dev with msgPtr := some msgPtr } = dev := by rw [← pointer]
  by_cases ended : dev.mem msgPtr = 0
  · have loop : readLoop faults dev.mem (size + 1) msgPtr buffer = (0, [], msgPtr) := by
      rw [readLoop, if_pos ended]
    rw [readRound, if_pos ended]
    simp [settle, place, pointer, loop, standing]
  · have loop : readLoop faults dev.mem (size + 1) msgPtr buffer =
        ((readLoop faults dev.mem size (msgPtr + 1) (buffer + 1)).1 + 1,
          if faults buffer then (readLoop faults dev.mem size (msgPtr + 1) (buffer + 1)).2.1
          else (buffer, dev.mem msgPtr) :: (readLoop faults dev.mem size (msgPtr + 1) (buffer + 1)).2.1,
          (readLoop faults dev.mem size (msgPtr + 1) (buffer + 1)).2.2) := by
      rw [readLoop, if_neg ended]
    rw [readRound, if_neg ended]
    simp only [settle, place, pointer, loop]
    by_cases faulting : faults buffer = true
    · simp [faulting]
      omega
    · simp [faulting]
      omega

theorem readRound_inside {faults : Nat → Bool} {size buffer msgPtr : Nat} {bytesRead : Int} :
    (readRound dev l faults size buffer bytesRead msgPtr).2.place.Inside ∧
      (readRound dev l faults size buffer bytesRead msgPtr).1.hasOpen = dev.hasOpen := by
  unfold readRound
  split
  · exact ⟨trivial, rfl⟩
  · exact ⟨trivial, rfl⟩

theorem advance_cases (taken : advance increment dev l = some (dev', l')) :
    Moved increment dev l .go dev' l' := by
  obtain ⟨place, answer, delivered⟩ := l
  cases place with
  | closed => simp [advance] at taken
  | opened => simp [advance] at taken
  | tested moduleGet =>
    obtain ⟨rfl, rfl⟩ := Prod.mk.inj (Option.some.inj taken)
    exact .claim rfl
  | claimed moduleGet =>
    obtain ⟨rfl, rfl⟩ := Prod.mk.inj (Option.some.inj taken)
    exact .within trivial trivial rfl rfl
  | printing address text moduleGet =>
    cases text with
    | nil =>
      obtain ⟨rfl, rfl⟩ := Prod.mk.inj (Option.some.inj taken)
      exact .within trivial trivial rfl rfl
    | cons byte text =>
      obtain ⟨rfl, rfl⟩ := Prod.mk.inj (Option.some.inj taken)
      exact .within trivial trivial rfl rfl
  | printed moduleGet =>
    obtain ⟨rfl, rfl⟩ := Prod.mk.inj (Option.some.inj taken)
    exact .within trivial trivial rfl rfl
  | pointed moduleGet =>
    obtain ⟨rfl, rfl⟩ := Prod.mk.inj (Option.some.inj taken)
    exact .within trivial trivial rfl rfl
  | released =>
    obtain ⟨rfl, rfl⟩ := Prod.mk.inj (Option.some.inj taken)
    exact .put rfl
  | reading faults size buffer bytesRead =>
    cases size with
    | zero =>
      obtain ⟨rfl, rfl⟩ := Prod.mk.inj (Option.some.inj taken)
      refine .within trivial trivial ?_ rfl
      cases pointer : dev.msgPtr with
      | none => simp [settle, pointer]
      | some msgPtr =>
        have standing : { dev with msgPtr := some msgPtr } = dev := by rw [← pointer]
        simp [settle, pointer, readLoop, standing]
    | succ size =>
      obtain ⟨msgPtr, pointer, round⟩ := Option.map_eq_some_iff.mp taken
      obtain ⟨rfl, rfl⟩ := Prod.mk.inj round
      exact .within trivial readRound_inside.1 (settle_readRound rfl pointer) readRound_inside.2

theorem move_cases (taken : move increment dev l m = some (dev', l')) :
    Moved increment dev l m dev' l' := by
  obtain ⟨place, answer, delivered⟩ := l
  cases m with
  | «open» moduleGet =>
    cases place with
    | closed =>
      by_cases claimed : dev.hasOpen ≠ 0
      · simp only [move, if_pos claimed, Option.some.injEq, Prod.mk.injEq] at taken
        obtain ⟨rfl, rfl⟩ := taken
        exact .busy rfl claimed
      · simp only [move, if_neg claimed, Option.some.injEq, Prod.mk.injEq] at taken
        obtain ⟨rfl, rfl⟩ := taken
        exact .test rfl (not_not.mp claimed)
    | _ => simp [move] at taken
  | read size buffer faults =>
    cases place with
    | opened =>
      obtain ⟨msgPtr, pointer, entered⟩ := Option.map_eq_some_iff.mp taken
      obtain ⟨rfl, rfl⟩ := Prod.mk.inj entered
      exact .enter rfl pointer
    | _ => simp [move] at taken
  | release =>
    cases place with
    | opened =>
      obtain ⟨rfl, rfl⟩ := Prod.mk.inj (Option.some.inj taken)
      exact .release rfl
    | _ => simp [move] at taken
  | go => exact advance_cases taken

/-! ## The flag and the open files -/

section Flag
variable {Process : Type} {s t : State Process} {p : Process}

theorem FlagCounts.boot (behind : Nat → Byte) : FlagCounts (.boot behind : State Process) :=
  ⟨0, .start fun _ => id, rfl⟩

theorem Exclusive.boot (behind : Nat → Byte) : Exclusive (.boot behind : State Process) :=
  fun _ _ admitted => (admitted.elim id id).elim

variable [DecidableEq Process]

theorem step_cases {a : Process × Move} (taken : step increment s a = some t) :
    ∃ dev l, Moved increment s.dev (s.processes a.1) a.2 dev l ∧
      t = ⟨dev, Function.update s.processes a.1 l⟩ := by
  obtain ⟨⟨dev, l⟩, moved, rfl⟩ := Option.map_eq_some_iff.mp taken
  exact ⟨dev, l, move_cases moved, rfl⟩

/-- In every interleaving, races of opens included. -/
theorem FlagCounts.kept (a : Process × Move) (before : FlagCounts s)
    (taken : step increment s a = some t) : FlagCounts t := by
  obtain ⟨count, tally, flag⟩ := before
  obtain ⟨dev, l, moved, rfl⟩ := step_cases taken
  obtain ⟨p, m⟩ := a
  cases moved with
  | busy place claimed => exact ⟨count, tally.stays Iff.rfl, flag⟩
  | test place free => exact ⟨count, tally.stays (by simp [place, Place.Inside]), flag⟩
  | claim place =>
    refine ⟨count + 1, tally.arrives (by simp [place, Place.Inside]) trivial, ?_⟩
    change s.dev.hasOpen + 1 = _
    omega
  | within inside after same unchanged =>
    exact ⟨count, tally.stays (iff_of_true after inside), unchanged.trans flag⟩
  | enter place pointer =>
    refine ⟨count, tally.stays (iff_of_true ?_ (by simp [place, Place.Inside])), flag⟩
    unfold enterRead
    split
    · simp [place, Place.Inside]
    · trivial
  | release place =>
    obtain ⟨less, rfl, left⟩ := tally.leaves (show (s.processes p).place.Inside by
      rw [place]; trivial) (show ¬ ({ s.processes p with place := .released } : Local).place.Inside from id)
    refine ⟨less, left, ?_⟩
    change s.dev.hasOpen - 1 = _
    omega
  | put place => exact ⟨count, tally.stays (by simp [place, Place.Inside]), flag⟩

/-- Nobody is admitted who was not before. -/
theorem Exclusive.update (before : Exclusive s) {dev : Device} {l : Local}
    (kept : l.place.Admitted → (s.processes p).place.Admitted) :
    Exclusive ⟨dev, Function.update s.processes p l⟩ := by
  have was (q : Process) (admitted : (Function.update s.processes p l q).place.Admitted) :
      (s.processes q).place.Admitted := by
    by_cases same : q = p
    · subst same
      rw [Function.update_self] at admitted
      exact kept admitted
    · rwa [Function.update_of_ne same] at admitted
  exact fun q q' one other => before q q' (was q one) (was q' other)

/-- A process enters where nobody is. -/
theorem Exclusive.alone (nobody : ∀ q, ¬ (s.processes q).place.Admitted) {dev : Device} {l : Local} :
    Exclusive ⟨dev, Function.update s.processes p l⟩ := by
  have entered (q : Process) (admitted : (Function.update s.processes p l q).place.Admitted) : q = p := by
    by_contra other
    rw [Function.update_of_ne other] at admitted
    exact nobody q admitted
  exact fun q q' one other => (entered q one).trans (entered q' other).symm

/-- Only an open that passes the test makes a second one possible. -/
theorem exclusive_step_iff {a : Process × Move} (counts : FlagCounts s) (before : Exclusive s)
    (taken : step increment s a = some t) : Exclusive t ↔ Undisturbed s a := by
  obtain ⟨dev, l, moved, rfl⟩ := step_cases taken
  obtain ⟨p, m⟩ := a
  cases moved with
  | busy place claimed =>
    refine iff_of_true (before.update (p := p) id) fun _ free => absurd free claimed
  | test place free =>
    have outside := counts.free_iff.mp free
    constructor
    · intro after _ _ q tested
      have other : q ≠ p := by
        rintro rfl
        rw [place] at tested
        exact tested
      refine other (after q p (.inl ?_) (.inl ?_))
      · simpa only [Function.update_of_ne other] using tested
      · simp only [Function.update_self, Place.Tested]
    · intro undisturbed
      have nobody (q : Process) : ¬ (s.processes q).place.Admitted := by
        rintro (tested | inside)
        · exact undisturbed (by rw [place]; trivial) free q tested
        · exact outside q inside
      exact Exclusive.alone nobody
  | claim place => exact iff_of_true (before.update (p := p) fun _ => .inl (by rw [place]; trivial)) trivial
  | within inside after same unchanged => exact iff_of_true (before.update (p := p) fun _ => .inr inside) trivial
  | enter place pointer =>
    exact iff_of_true (before.update (p := p) fun _ => .inr (by rw [place]; trivial)) trivial
  | release place => exact iff_of_true (before.update (p := p) fun admitted => (admitted.elim id id).elim) trivial
  | put place => exact iff_of_true (before.update (p := p) fun admitted => (admitted.elim id id).elim) trivial

/-- An open of a process that runs nothing is never stuck. -/
theorem undisturbed_of_stuck {a : Process × Move} (stuck : step increment s a = none) :
    Undisturbed s a := by
  obtain ⟨p, m⟩ := a
  cases m with
  | «open» moduleGet =>
    intro closed free
    cases place : (s.processes p).place with
    | closed => simp [step, move, place, free] at stuck
    | _ =>
      rw [place] at closed
      exact closed.elim
  | _ => trivial

/-- In every interleaving, `msg_buff` being large enough, `has_open` counts the files that have
claimed it, so that no open is refused for good; and there is one process at most that has passed
the test, all along, exactly when no open passes it while another is between test and increment. -/
theorem open_exclusive_iff (increment : Int → Int) (behind : Nat → Byte)
    (actions : List (Process × Move)) :
    (∀ s ∈ run (step increment) (.boot behind) actions, FlagCounts s) ∧
      (Each (step increment) (fun s a => ∀ t ∈ step increment s a, Exclusive t) (.boot behind) actions ↔
        Each (step increment) Undisturbed (.boot behind) actions) := by
  constructor
  · intro s reached
    exact run_preserves (fun s a t before taken => before.kept a taken) (FlagCounts.boot behind) reached
  · have exact_step (s : State Process) (a : Process × Move) (before : FlagCounts s ∧ Exclusive s)
        (_ : True) : (∀ t ∈ step increment s a, Exclusive t) ↔ Undisturbed s a := by
      cases taken : step increment s a with
      | none => simp [undisturbed_of_stuck taken]
      | some t => simp [exclusive_step_iff before.1 before.2 taken]
    have kept (s : State Process) (a : Process × Move) (t : State Process)
        (before : FlagCounts s ∧ Exclusive s) (_ : True) (undisturbed : Undisturbed s a)
        (taken : step increment s a = some t) : FlagCounts t ∧ Exclusive t :=
      ⟨before.1.kept a taken, (exclusive_step_iff before.1 before.2 taken).mpr undisturbed⟩
    exact each_iff_each exact_step kept ⟨FlagCounts.boot behind, Exclusive.boot behind⟩
      (each_trivial _ actions)

end Flag

/-- Both pass the test, and both have the device open. -/
example : (run (step naturalIncrement) (State.boot fun _ => 255)
    [(false, .open true), (true, .open true), (false, .go), (true, .go)]).any (fun s =>
      decide ((s.processes false).place.Inside ∧ (s.processes true).place.Inside)) = true := by
  decide +kernel

end LddLearn.Chardev.Interleaved
