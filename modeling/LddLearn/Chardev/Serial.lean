import LddLearn.Chardev.Interleaved

/-!
# Statements amount to whole calls

Where no two opens are between test and increment of `has_open` at once, running the calls
statement by statement comes to the same as running them one after the other: an open takes
effect at its increment or, refused, at its test, a read at its start and a release at its
decrement. So what is proved of sessions of whole calls holds of the statements too.
-/

set_option autoImplicit false

namespace LddLearn.Chardev.Interleaved
open LddLearn.Library LddLearn.Library.Run

/-! ## Whole calls -/

/-- A run of whole calls, with the answer of the last call of each process. -/
structure Serial (Process : Type) where
  run : RunState Process
  answers : Process → Option Int

def Serial.boot {Process : Type} (behind : Nat → Byte) : Serial Process := ⟨.boot behind, fun _ => none⟩

def caller {Process : Type} : Callback Process → Process
  | .open process _ | .read process _ _ _ | .release process => process

def answerOf {Process : Type} (increment : Int → Int) (dev : Device) : Callback Process → Option Int
  | .open _ moduleGet => some (deviceOpen increment moduleGet dev).1
  | .read _ size buffer faults => (deviceRead faults dev size buffer).map (·.1)
  | .release _ => some NO_ERROR

def serialStep {Process : Type} [DecidableEq Process] (increment : Int → Int) (r : Serial Process)
    (c : Callback Process) : Option (Serial Process) :=
  (Chardev.step increment r.run c).map fun run =>
    ⟨run, Function.update r.answers (caller c) (answerOf increment r.run.dev c)⟩

/-- The call that takes effect with a statement. -/
def effects {Process : Type} (s : State Process) : Process × Move → List (Callback Process)
  | (p, .open moduleGet) => if s.dev.hasOpen ≠ 0 then [.open p moduleGet] else []
  | (p, .read size buffer faults) => [.read p size buffer faults]
  | (p, .release) => [.release p]
  | (p, .go) =>
    match (s.processes p).place with
    | .tested moduleGet => [.open p moduleGet]
    | _ => []

/-! ## The two levels -/

section Levels
variable {Process : Type} {s t : State Process} {r : Serial Process} {puts : Nat} {p q : Process}
  {increment : Int → Int} {dev : Device} {l : Local}

/-- With the call of the process inside run to its end, and without the references that
releases still have to put, the device is that of the whole calls; so are the bytes of the process
inside, and everybody's answers. -/
structure Settles (increment : Int → Int) (s : State Process) (r : Serial Process) (puts : Nat) :
    Prop where
  tally : Tally (fun l : Local => l.place.Released) s.processes puts
  nobody : (∀ p, ¬ (s.processes p).place.Inside) → r.run.holder = none ∧ r.run.dev = dropRefs puts s.dev
  somebody : ∀ p, (s.processes p).place.Inside → r.run.holder = some p ∧
    r.run.dev = dropRefs puts (settle increment s.dev (s.processes p)).1 ∧
    r.run.delivered = (settle increment s.dev (s.processes p)).2.delivered
  answers : ∀ p, r.answers p = (settle increment s.dev (s.processes p)).2.answer

/-- The statements run so far come to what the whole calls do. -/
def Refines (increment : Int → Int) (s : State Process) (r : Serial Process) : Prop :=
  Exclusive s ∧ ∃ puts, Settles increment s r puts

theorem Settles.boot (increment : Int → Int) (behind : Nat → Byte) :
    Settles increment (.boot behind : State Process) (.boot behind) 0 where
  tally := .start fun _ => id
  nobody := fun _ => ⟨rfl, congrArg (fun refs => { Device.boot behind with moduleRefs := refs }) (Int.sub_zero _).symm⟩
  somebody := fun _ inside => inside.elim
  answers := fun _ => rfl

theorem Settles.hasOpen (settles : Settles increment s r puts) : r.run.dev.hasOpen = s.dev.hasOpen := by
  by_cases somebody : ∃ p, (s.processes p).place.Inside
  · obtain ⟨p, inside⟩ := somebody
    obtain ⟨_, dev, _⟩ := settles.somebody p inside
    rw [dev]
    exact settle_hasOpen increment s.dev _
  · rw [(settles.nobody (not_exists.mp somebody)).2]
    rfl

theorem Exclusive.others (alone : Exclusive s) (admitted : (s.processes p).place.Admitted) :
    ∀ q, q ≠ p → ¬ (s.processes q).place.Inside :=
  fun q other inside => other (alone q p (.inr inside) admitted)

/-- Once every call has returned the device and the answers are those of the whole calls. -/
theorem Refines.at_rest (refines : Refines increment s r)
    (rest : ∀ p, (s.processes p).place = .closed ∨ (s.processes p).place = .opened) :
    r.run.dev = s.dev ∧ ∀ p, r.answers p = (s.processes p).answer := by
  obtain ⟨_, puts, settles⟩ := refines
  have settled (p : Process) : settle increment s.dev (s.processes p) = (s.dev, s.processes p) := by
    rcases rest p with place | place <;> simp only [settle, place]
  have put : puts = 0 := by
    refine settles.tally.eq_zero_iff.mpr fun p released => ?_
    rcases rest p with place | place <;> rw [place] at released <;> exact released
  have refs : dropRefs puts s.dev = s.dev := by
    simp [put, dropRefs]
  constructor
  · by_cases somebody : ∃ p, (s.processes p).place.Inside
    · obtain ⟨p, inside⟩ := somebody
      rw [(settles.somebody p inside).2.1, settled p, refs]
    · rw [(settles.nobody (not_exists.mp somebody)).2, refs]
  · intro p
    rw [settles.answers p, settled p]

/-- What a process has stored of its own session. -/
theorem Refines.delivered (refines : Refines increment s r) (inside : (s.processes p).place.Inside) :
    (s.processes p).delivered <+: r.run.delivered := by
  obtain ⟨_, puts, settles⟩ := refines
  rw [(settles.somebody p inside).2.2]
  exact settle_delivered increment s.dev (s.processes p)

variable [DecidableEq Process]

/-- A process that stays outside changes nothing but its own answer. -/
theorem Settles.outside (before : Settles increment s r puts)
    (was : ¬ (s.processes p).place.Inside) (now : ¬ l.place.Inside)
    (released : l.place.Released ↔ (s.processes p).place.Released) :
    Settles increment ⟨s.dev, Function.update s.processes p l⟩
      ⟨r.run, Function.update r.answers p (settle increment s.dev l).2.answer⟩ puts where
  tally := before.tally.stays released
  nobody := by
    intro nobody
    refine before.nobody fun q inside => nobody q ?_
    have other : q ≠ p := fun same => was (same ▸ inside)
    simpa only [Function.update_of_ne other] using inside
  somebody := by
    intro q inside
    have other : q ≠ p := by
      rintro rfl
      simp only [Function.update_self] at inside
      exact now inside
    simp only [Function.update_of_ne other] at inside ⊢
    exact before.somebody q inside
  answers := by
    intro q
    by_cases same : q = p
    · subst same
      simp only [Function.update_self]
    · simp only [Function.update_of_ne same]
      exact before.answers q

/-- The process inside, and the others as they were. -/
theorem Settles.inside {r' : Serial Process} (before : Settles increment s r puts)
    (alone : ∀ q, q ≠ p → ¬ (s.processes q).place.Inside) (now : l.place.Inside)
    (tally : Tally (fun l : Local => l.place.Released) (Function.update s.processes p l) puts)
    (holder : r'.run.holder = some p) (same : r'.run.dev = dropRefs puts (settle increment dev l).1)
    (delivered : r'.run.delivered = (settle increment dev l).2.delivered)
    (answers : r'.answers = Function.update r.answers p (settle increment dev l).2.answer) :
    Settles increment ⟨dev, Function.update s.processes p l⟩ r' puts where
  tally := tally
  nobody := by
    intro nobody
    have outside := nobody p
    simp only [Function.update_self] at outside
    exact absurd now outside
  somebody := by
    intro q inside
    obtain rfl : q = p := by
      by_contra other
      simp only [Function.update_of_ne other] at inside
      exact alone q other inside
    simp only [Function.update_self]
    exact ⟨holder, same, delivered⟩
  answers := by
    intro q
    rw [answers]
    by_cases moved : q = p
    · subst moved
      simp only [Function.update_self]
    · simp only [Function.update_of_ne moved]
      exact (before.answers q).trans (settle_answer (alone q moved))

/-! ## Statements -/

theorem busy_matched (before : Settles increment s r puts) (place : (s.processes p).place = .closed)
    (claimed : s.dev.hasOpen ≠ 0) (moduleGet : Bool) :
    ∃ r', serialStep increment r (.open p moduleGet) = some r' ∧
      Settles increment
        ⟨s.dev, Function.update s.processes p { s.processes p with answer := some (-EBUSY) }⟩ r' puts := by
  have busy : r.run.dev.hasOpen ≠ 0 := before.hasOpen ▸ claimed
  have out : ¬ (s.processes p).place.Inside := by
    rw [place]
    exact id
  refine ⟨_, ?_, before.outside out out Iff.rfl⟩
  rw [serialStep, step_open_busy busy, answerOf, open_busy busy]
  simp [settle, place, caller]

theorem claim_matched (counts : FlagCounts s) (alone : Exclusive s)
    (before : Settles increment s r puts) {moduleGet : Bool}
    (place : (s.processes p).place = .tested moduleGet) :
    ∃ r', serialStep increment r (.open p moduleGet) = some r' ∧
      Settles increment ⟨{ s.dev with hasOpen := s.dev.hasOpen + 1 }, Function.update s.processes p
        { s.processes p with place := .claimed moduleGet, delivered := [] }⟩ r' puts := by
  have others := alone.others (p := p) (.inl (by rw [place]; trivial))
  have nobody (q : Process) : ¬ (s.processes q).place.Inside := by
    by_cases same : q = p
    · rw [same, place]
      exact id
    · exact others q same
  obtain ⟨_, dev⟩ := before.nobody nobody
  have free : r.run.dev.hasOpen = 0 := before.hasOpen.trans (counts.free_iff.mpr nobody)
  refine ⟨_, by rw [serialStep, step_open_free free]; rfl, ?_⟩
  refine before.inside others trivial (before.tally.stays (by simp [place, Place.Released])) rfl ?_ rfl ?_
  · rw [RunState.afterOpen, open_free free, dev]
    cases moduleGet with
    | false => rfl
    | true =>
      simp only [settle, withRef, dropRefs, if_true, Device.mk.injEq, true_and, and_true]
      omega
  · rw [answerOf, open_free free]
    rfl

theorem Place.Inside.not_released {place : Place} (inside : place.Inside) : ¬ place.Released := by
  cases place <;> first | exact id | exact inside.elim

/-- A statement inside a call leaves what the call comes to. -/
theorem within_matched (alone : Exclusive s) (before : Settles increment s r puts)
    (was : (s.processes p).place.Inside) (now : l.place.Inside)
    (same : settle increment dev l = settle increment s.dev (s.processes p)) :
    Settles increment ⟨dev, Function.update s.processes p l⟩ r puts := by
  obtain ⟨holder, device, delivered⟩ := before.somebody p was
  rw [← same] at device delivered
  refine before.inside (alone.others (.inr was)) now ?_ holder device delivered ?_
  · exact before.tally.stays (iff_of_false now.not_released was.not_released)
  · rw [same, ← before.answers p, Function.update_eq_self]

theorem test_matched (before : Settles increment s r puts)
    (place : (s.processes p).place = .closed) (moduleGet : Bool) :
    Settles increment
      ⟨s.dev, Function.update s.processes p { s.processes p with place := .tested moduleGet }⟩ r puts := by
  have out : ¬ (s.processes p).place.Inside := by
    rw [place]
    exact id
  have unanswered : r.answers p = (s.processes p).answer := by
    rw [before.answers p, settle, place]
  have after := before.outside (l := { s.processes p with place := .tested moduleGet }) out id
    (by simp [place, Place.Released])
  have same : (settle increment s.dev { s.processes p with place := .tested moduleGet }).2.answer =
      r.answers p := unanswered.symm
  rwa [same, Function.update_eq_self] at after

omit [DecidableEq Process] in
theorem deviceRead_dropRefs (faults : Nat → Bool) (puts : Nat) (dev : Device) (size buffer : Nat) :
    deviceRead faults (dropRefs puts dev) size buffer =
      (deviceRead faults dev size buffer).map fun (ret, stores, after) =>
        (ret, stores, dropRefs puts after) := by
  unfold deviceRead
  rw [Option.map_map]
  congr 1
  funext msgPtr
  by_cases ended : dev.mem msgPtr = 0
  · have same : (dropRefs puts dev).mem msgPtr = 0 := ended
    simp only [Function.comp, if_pos ended, if_pos same]
  · have same : (dropRefs puts dev).mem msgPtr ≠ 0 := ended
    simp only [Function.comp, if_neg ended, if_neg same]
    rfl

/-- A read entered comes to a whole read. -/
theorem enterRead_settles (increment : Int → Int) {msgPtr : Nat} (place : l.place = .opened)
    (pointer : dev.msgPtr = some msgPtr) (size buffer : Nat) (faults : Nat → Bool) :
    ∃ ret stores after, deviceRead faults dev size buffer = some (ret, stores, after) ∧
      settle increment dev (enterRead dev l size buffer faults msgPtr) =
        (after, ⟨.opened, some ret, l.delivered ++ stores.map (·.2)⟩) := by
  unfold deviceRead
  rw [pointer, Option.map_some]
  by_cases ended : dev.mem msgPtr = 0
  · refine ⟨0, [], dev, by rw [if_pos ended], ?_⟩
    rw [enterRead, if_pos ended]
    simp [settle, place]
  · refine ⟨_, _, _, by rw [if_neg ended], ?_⟩
    rw [enterRead, if_neg ended]
    simp [settle, pointer]

theorem enter_matched (alone : Exclusive s) (before : Settles increment s r puts)
    (place : (s.processes p).place = .opened) {msgPtr : Nat} (pointer : s.dev.msgPtr = some msgPtr)
    (size buffer : Nat) (faults : Nat → Bool) :
    ∃ r', serialStep increment r (.read p size buffer faults) = some r' ∧
      Settles increment ⟨s.dev, Function.update s.processes p
        (enterRead s.dev (s.processes p) size buffer faults msgPtr)⟩ r' puts := by
  have inside : (s.processes p).place.Inside := by
    rw [place]
    trivial
  obtain ⟨holder, device, delivered⟩ := before.somebody p inside
  have settled : settle increment s.dev (s.processes p) = (s.dev, s.processes p) := by
    rw [settle, place]
  rw [settled] at device delivered
  obtain ⟨ret, stores, after, outcome, comes⟩ :=
    enterRead_settles increment place pointer size buffer faults
  have read : deviceRead faults r.run.dev size buffer = some (ret, stores, dropRefs puts after) := by
    rw [device, deviceRead_dropRefs, outcome]
    rfl
  have entered : (enterRead s.dev (s.processes p) size buffer faults msgPtr).place.Inside := by
    unfold enterRead
    split
    · exact inside
    · trivial
  refine ⟨_, by rw [serialStep, Chardev.step, read]; rfl, ?_⟩
  refine before.inside (alone.others (.inr inside)) entered ?_ holder ?_ ?_ ?_
  · exact before.tally.stays (iff_of_false entered.not_released inside.not_released)
  · rw [comes]
  · rw [comes, ← delivered]
  · rw [comes, answerOf, read]
    rfl

theorem release_matched (alone : Exclusive s) (before : Settles increment s r puts)
    (place : (s.processes p).place = .opened) :
    ∃ r', serialStep increment r (.release p) = some r' ∧
      Settles increment ⟨{ s.dev with hasOpen := s.dev.hasOpen - 1 },
        Function.update s.processes p { s.processes p with place := .released }⟩ r' (puts + 1) := by
  have inside : (s.processes p).place.Inside := by
    rw [place]
    trivial
  have others := alone.others (.inr inside)
  obtain ⟨_, device, _⟩ := before.somebody p inside
  have settled : settle increment s.dev (s.processes p) = (s.dev, s.processes p) := by
    rw [settle, place]
  rw [settled] at device
  refine ⟨_, rfl, before.tally.arrives inside.not_released trivial, fun _ => ⟨rfl, ?_⟩, ?_, ?_⟩
  · simp only [RunState.afterRelease, deviceRelease, device, dropRefs, Device.mk.injEq, true_and, and_true]
    omega
  · intro q still
    by_cases same : q = p
    · subst same
      simp only [Function.update_self] at still
      exact still.elim
    · simp only [Function.update_of_ne same] at still
      exact absurd still (others q same)
  · intro q
    by_cases same : q = p
    · subst same
      simp only [caller, Function.update_self]
      rfl
    · simp only [caller, Function.update_of_ne same]
      exact (before.answers q).trans (settle_answer (others q same))

theorem put_matched (before : Settles increment s r puts)
    (place : (s.processes p).place = .released) :
    ∃ less, Settles increment ⟨dropRefs 1 s.dev, Function.update s.processes p
      { s.processes p with place := .closed, answer := some NO_ERROR }⟩ r less := by
  obtain ⟨less, rfl, left⟩ := before.tally.leaves (show (s.processes p).place.Released by
    rw [place]; trivial) (show ¬ ({ s.processes p with
      place := .closed, answer := some NO_ERROR } : Local).place.Released from id)
  have out : ¬ (s.processes p).place.Inside := by
    rw [place]
    exact id
  have owed (dev : Device) : dropRefs less (dropRefs 1 dev) = dropRefs (less + 1) dev := by
    rw [dropRefs_dropRefs, Nat.add_comm]
  refine ⟨less, left, ?_, ?_, ?_⟩
  · intro nobody
    rw [owed]
    refine before.nobody fun q inside => nobody q ?_
    have other : q ≠ p := fun same => out (same ▸ inside)
    simpa only [Function.update_of_ne other] using inside
  · intro q inside
    by_cases same : q = p
    · subst same
      simp only [Function.update_self] at inside
      exact inside.elim
    · simp only [Function.update_of_ne same] at inside ⊢
      rw [settle_dropRefs inside, owed]
      exact before.somebody q inside
  · intro q
    rw [before.answers q]
    by_cases same : q = p
    · subst same
      simp only [Function.update_self, settle, place]
    · simp only [Function.update_of_ne same]
      by_cases inside : (s.processes q).place.Inside
      · rw [settle_dropRefs inside]
      · exact settle_answer inside

/-! ## Runs -/

omit [DecidableEq Process] in
theorem effects_inside (inside : (s.processes p).place.Inside) : effects s (p, .go) = [] := by
  cases place : (s.processes p).place with
  | tested moduleGet =>
    rw [place] at inside
    exact inside.elim
  | _ => simp only [effects, place]

/-- Every statement is none or one of the whole calls. -/
theorem Refines.matched (a : Process × Move) (counts : FlagCounts s) (before : Refines increment s r)
    (undisturbed : Undisturbed s a) (taken : step increment s a = some t) :
    ∃ r', run (serialStep increment) r (effects s a) = some r' ∧ Refines increment t r' := by
  obtain ⟨alone, puts, settles⟩ := before
  have exclusive := (exclusive_step_iff counts alone taken).mpr undisturbed
  obtain ⟨dev, l, moved, rfl⟩ := step_cases taken
  obtain ⟨p, m⟩ := a
  cases moved with
  | busy place claimed =>
    obtain ⟨r', called, after⟩ := busy_matched settles place claimed _
    exact ⟨r', by rw [effects, if_pos claimed, run_cons, called]; rfl, exclusive, puts, after⟩
  | test place free =>
    refine ⟨r, ?_, exclusive, puts, test_matched settles place _⟩
    rw [effects, if_neg (not_not.mpr free), run_nil]
  | claim place =>
    obtain ⟨r', called, after⟩ := claim_matched counts alone settles place
    refine ⟨r', ?_, exclusive, puts, after⟩
    simp only [effects, place, run_cons, called]
    rfl
  | within inside after same unchanged =>
    refine ⟨r, ?_, exclusive, puts, within_matched alone settles inside after same⟩
    rw [effects_inside inside, run_nil]
  | enter place pointer =>
    obtain ⟨r', called, after⟩ := enter_matched alone settles place pointer _ _ _
    exact ⟨r', by rw [effects, run_cons, called]; rfl, exclusive, puts, after⟩
  | release place =>
    obtain ⟨r', called, after⟩ := release_matched alone settles place
    exact ⟨r', by rw [effects, run_cons, called]; rfl, exclusive, puts + 1, after⟩
  | put place =>
    obtain ⟨less, after⟩ := put_matched settles place
    exact ⟨r, by simp only [effects, place, run_nil], exclusive, less, after⟩

variable {behind : Nat → Byte} {actions : List (Process × Move)}

/-- What the levels have in common in every undisturbed run. -/
def Related (increment : Int → Int) (s : State Process) (r : Serial Process) : Prop :=
  FlagCounts s ∧ Refines increment s r

omit [DecidableEq Process] in
theorem Related.boot (increment : Int → Int) (behind : Nat → Byte) :
    Related increment (.boot behind : State Process) (.boot behind) :=
  ⟨.boot behind, .boot behind, 0, .boot increment behind⟩

theorem Related.matched (s : State Process) (a : Process × Move) (t : State Process)
    (r : Serial Process) (before : Related increment s r) (undisturbed : Undisturbed s a)
    (taken : step increment s a = some t) :
    ∃ r', run (serialStep increment) r (effects s a) = some r' ∧ Related increment t r' := by
  obtain ⟨r', emitted, after⟩ := before.2.matched a before.1 undisturbed taken
  exact ⟨r', emitted, before.1.kept a taken, after⟩

/-- Where no two opens are between test and increment at once and `msg_buff` is large enough, the
statements run come to the whole calls in the order of their effects: same device, same bytes, same
answers. -/
theorem statements_refine_calls
    (undisturbed : Each (step increment) Undisturbed (.boot behind) actions)
    (reached : run (step increment) (.boot behind) actions = some s) :
    ∃ r, run (serialStep increment) (.boot behind)
        (trace (step increment) effects (.boot behind) actions) = some r ∧ Refines increment s r := by
  obtain ⟨r, called, _, refines⟩ :=
    run_simulated Related.matched (Related.boot increment behind) undisturbed reached
  exact ⟨r, called, refines⟩

/-! ## Sessions -/

/-- Buffers of reads can be written. -/
def Writable : Process × Move → Prop
  | (_, .read _ _ faults) => ∀ address, faults address = false
  | (_, _) => True

theorem session_call {r r' : Serial Process} {c : Callback Process} (before : SessionInv r.run)
    (taken : run (serialStep naturalIncrement) r [c] = some r') (calls : HolderCalls r.run c) :
    SessionInv r'.run := by
  obtain ⟨middle, called, same⟩ := Option.bind_eq_some_iff.mp taken
  obtain rfl := Option.some.inj same
  obtain ⟨after, whole, rfl⟩ := Option.map_eq_some_iff.mp called
  exact (before.kept c calls).1.reached whole

/-- The calls that take effect are those of the process that has the device open. -/
theorem session_effects {r r' : Serial Process} (a : Process × Move) (before : SessionInv r.run)
    (refines : Refines naturalIncrement s r) (writable : Writable a)
    (taken : step naturalIncrement s a = some t)
    (emitted : run (serialStep naturalIncrement) r (effects s a) = some r') : SessionInv r'.run := by
  obtain ⟨_, puts, settles⟩ := refines
  obtain ⟨dev, l, moved, rfl⟩ := step_cases taken
  obtain ⟨p, m⟩ := a
  have holder (place : (s.processes p).place = .opened) : r.run.holder = some p :=
    (settles.somebody p (by rw [place]; trivial)).1
  cases moved with
  | busy place claimed =>
    rw [effects, if_pos claimed] at emitted
    exact session_call before emitted trivial
  | test place free =>
    rw [effects, if_neg (not_not.mpr free)] at emitted
    exact Option.some.inj emitted ▸ before
  | claim place =>
    simp only [effects, place] at emitted
    exact session_call before emitted trivial
  | within inside after same unchanged =>
    rw [effects_inside inside] at emitted
    exact Option.some.inj emitted ▸ before
  | enter place pointer => exact session_call before emitted ⟨holder place, writable⟩
  | release place => exact session_call before emitted (holder place)
  | put place =>
    simp only [effects, place] at emitted
    exact Option.some.inj emitted ▸ before

/-- Statement by statement, with no two opens between test and increment at once, `msg_buff` large
enough and all buffers writable: what a process has stored since its open is the beginning of the message of the
last whole open. -/
theorem statements_read_their_messages
    (undisturbed : Each (step naturalIncrement) Undisturbed (.boot behind) actions)
    (writable : ∀ a ∈ actions, Writable a)
    (reached : run (step naturalIncrement) (.boot behind) actions = some s) :
    ∃ r, run (serialStep naturalIncrement) (.boot behind)
        (trace (step naturalIncrement) effects (.boot behind) actions) = some r ∧
      ∀ p, (s.processes p).place.Inside → r.run.holder = some p ∧
        (s.processes p).delivered <+: message r.run.opens := by
  have both := (each_and _ actions).mpr ⟨undisturbed, each_of_forall writable _⟩
  have matched (s : State Process) (a : Process × Move) (t : State Process) (r : Serial Process)
      (before : Related naturalIncrement s r ∧ SessionInv r.run) (allowed : Undisturbed s a ∧ Writable a)
      (taken : step naturalIncrement s a = some t) :
      ∃ r', run (serialStep naturalIncrement) r (effects s a) = some r' ∧
        Related naturalIncrement t r' ∧ SessionInv r'.run := by
    obtain ⟨r', emitted, after⟩ := before.1.matched s a t r allowed.1 taken
    exact ⟨r', emitted, after, session_effects a before.2 before.1.2 allowed.2 taken emitted⟩
  obtain ⟨r, called, ⟨_, refines⟩, session⟩ :=
    run_simulated matched ⟨Related.boot naturalIncrement behind, SessionInv.start behind⟩ both reached
  refine ⟨r, called, fun p inside => ⟨?_, (refines.delivered inside).trans session.reads⟩⟩
  obtain ⟨_, puts, settles⟩ := refines
  exact (settles.somebody p inside).1

end Levels

/-- One process opens and reads, while another is refused, and releases; the other's open tests
`has_open` before the first has put its reference. -/
def handedOver : List (Bool × Move) :=
  (false, .open true) :: List.replicate 35 (false, .go) ++
    [(false, .read 3 1000 fun _ => false), (false, .go), (true, .open true), (false, .go)] ++
    [(false, .go), (false, .go), (false, .release), (true, .open true), (false, .go), (true, .go)]

theorem handedOver_undisturbed :
    Each (step naturalIncrement) Undisturbed (State.boot fun _ => 255) handedOver := by
  decide +kernel

theorem handedOver_runs :
    ∃ s, run (step naturalIncrement) (State.boot fun _ => 255) handedOver = some s :=
  Option.isSome_iff_exists.mp (by decide +kernel)

theorem statements_refine_calls_two :
    ∃ s r, run (step naturalIncrement) (.boot fun _ => 255) handedOver = some s ∧
      run (serialStep naturalIncrement) (.boot fun _ => 255)
        (trace (step naturalIncrement) effects (.boot fun _ => 255) handedOver) = some r ∧
      Refines naturalIncrement s r := by
  obtain ⟨s, reached⟩ := handedOver_runs
  obtain ⟨r, called, refines⟩ := statements_refine_calls handedOver_undisturbed reached
  exact ⟨s, r, reached, called, refines⟩

theorem statements_read_their_messages_two :
    ∃ s r, run (step naturalIncrement) (.boot fun _ => 255) handedOver = some s ∧
      run (serialStep naturalIncrement) (.boot fun _ => 255)
        (trace (step naturalIncrement) effects (.boot fun _ => 255) handedOver) = some r ∧
      ∀ p, (s.processes p).place.Inside → r.run.holder = some p ∧
        (s.processes p).delivered <+: message r.run.opens := by
  have writable : ∀ a ∈ handedOver, Writable a := by
    intro a member
    simp only [handedOver, List.mem_append, List.mem_cons, List.mem_replicate, List.not_mem_nil] at member
    rcases member with ((rfl | ⟨_, rfl⟩) | rfl | rfl | rfl | rfl | _) |
      rfl | rfl | rfl | rfl | rfl | rfl | _ <;> first | trivial | exact fun _ => rfl
  obtain ⟨s, reached⟩ := handedOver_runs
  obtain ⟨r, called, sessions⟩ := statements_read_their_messages handedOver_undisturbed writable reached
  exact ⟨s, r, reached, called, sessions⟩

end LddLearn.Chardev.Interleaved
