import LddLearn.Chardev.Device

/-!
# How far sprintf writes into msg_buff

The message is 29 characters and the counter's digits long, and its NUL follows:
two digits fill the 32 bytes of `msg_buff`, three overrun it. So the buffer is
respected in exactly the runs with at most 99 successful opens.
-/

set_option autoImplicit false

namespace LddLearn.Chardev
open LddLearn.Library LddLearn.Library.Run

variable {Process : Type}

/-- Every `sprintf` so far stayed in `msg_buff`, memory behind it is what it was, and
`msg_buff` holds a NUL. -/
structure MsgBuffSound (behind : Nat → Byte) (r : RunState Process) : Prop where
  sizes : ∀ written ∈ r.dev.sprintfSizes, written ≤ BUFFER_SIZE
  untouched : ∀ address, BUFFER_SIZE ≤ address →
    r.dev.mem address = behind (address - BUFFER_SIZE)
  nul : ∃ address, address < BUFFER_SIZE ∧ r.dev.mem address = 0

/-- Up to the 99th successful open the counter counts and the buffer is respected; the
100th writes 33 bytes. -/
structure BuffInv (behind : Nat → Byte) (r : RunState Process) : Prop where
  counts : r.opens ≤ 99 → r.dev.counter = r.opens
  sound : r.opens ≤ 99 → MsgBuffSound behind r
  overrun : 100 ≤ r.opens → BUFFER_SIZE + 1 ∈ r.dev.sprintfSizes

variable {behind : Nat → Byte} {r r' : RunState Process}

theorem wrapIncrement_small {n : Nat} (small : n ≤ 99) : wrapIncrement n = (n + 1 : Nat) := by
  unfold wrapIncrement
  rw [BitVec.toInt_ofInt, Int.bmod_eq_of_le (by omega) (by omega)]
  rfl

theorem decimal_two_digits {n : Nat} (small : n ≤ 99) : (decimal n).length ≤ 2 := by
  have nonneg : ¬ (n : Int) < 0 := by omega
  rw [decimal, if_neg nonneg, Int.natAbs_natCast,
    Nat.length_toDigits_le_iff (by decide) (by decide)]
  omega

theorem BuffInv.start (behind : Nat → Byte) :
    BuffInv behind (RunState.boot behind : RunState Process) where
  counts := fun _ => rfl
  sound := fun _ => {
    sizes := fun written member => by simp [RunState.boot, Device.boot] at member
    untouched := fun address outside => if_neg (by omega)
    nul := ⟨0, by decide, rfl⟩ }
  overrun := fun many => by simp [RunState.boot] at many

/-- Calls that leave counter, memory and sizes alone. -/
theorem BuffInv.of_same (before : BuffInv behind r) (opens : r'.opens = r.opens)
    (counter : r'.dev.counter = r.dev.counter) (mem : r'.dev.mem = r.dev.mem)
    (sizes : r'.dev.sprintfSizes = r.dev.sprintfSizes) : BuffInv behind r' where
  counts := by
    rw [opens, counter]
    exact before.counts
  sound := by
    intro few
    have sound := before.sound (opens ▸ few)
    exact ⟨sizes ▸ sound.sizes, mem ▸ sound.untouched, mem ▸ sound.nul⟩
  overrun := by
    rw [opens, sizes]
    exact before.overrun

/-- A message of at most 31 characters keeps the buffer sound. -/
theorem MsgBuffSound.store {text : List Byte} (clean : ∀ byte ∈ text, byte ≠ 0)
    (fits : text.length + 1 ≤ BUFFER_SIZE) (before : MsgBuffSound behind r)
    (mem : r'.dev.mem = CString.store 0 r.dev.mem 0 text)
    (sizes : r'.dev.sprintfSizes = (text.length + 1) :: r.dev.sprintfSizes) :
    MsgBuffSound behind r' where
  sizes := by
    rw [sizes]
    intro written member
    rcases List.mem_cons.mp member with same | earlier
    · exact same ▸ fits
    · exact before.sizes written earlier
  untouched := by
    intro address outside
    rw [mem, CString.store_outside 0 _ (by omega)]
    exact before.untouched address outside
  nul := by
    have terminated := (CString.stringAt_store r.dev.mem 0 clean).terminated
    rw [Nat.zero_add] at terminated
    exact ⟨text.length, by omega, by rw [mem, terminated]⟩

theorem BuffInv.opened (before : BuffInv behind r) (process : Process) (moduleGet : Bool)
    (free : r.dev.hasOpen = 0) :
    BuffInv behind (r.afterOpen process (deviceOpen wrapIncrement moduleGet r.dev).2) := by
  have opened : (deviceOpen wrapIncrement moduleGet r.dev).2 = _ :=
    congrArg Prod.snd (if_neg (not_not.mpr free))
  rw [opened]
  refine ⟨?_, ?_, ?_⟩
  · intro few
    change r.opens + 1 ≤ 99 at few
    change wrapIncrement r.dev.counter = (r.opens + 1 : Nat)
    rw [before.counts (by omega), wrapIncrement_small (by omega)]
  · intro few
    change r.opens + 1 ≤ 99 at few
    have counter : wrapIncrement r.dev.counter = (r.opens + 1 : Nat) := by
      rw [before.counts (by omega), wrapIncrement_small (by omega)]
    have digits := decimal_two_digits few
    have length := message_length (wrapIncrement r.dev.counter)
    have fits : (message (wrapIncrement r.dev.counter)).length + 1 ≤ BUFFER_SIZE := by
      rw [length, counter]
      unfold BUFFER_SIZE
      omega
    exact (before.sound (by omega)).store (message_clean _) fits rfl rfl
  · intro many
    change 100 ≤ r.opens + 1 at many
    by_cases hundredth : r.opens = 99
    · have counter : wrapIncrement r.dev.counter = 100 := by
        rw [before.counts (by omega), wrapIncrement_small (by omega), hundredth]
        rfl
      have size : (message (wrapIncrement r.dev.counter)).length + 1 = BUFFER_SIZE + 1 := by
        rw [counter]
        decide
      exact size ▸ List.mem_cons_self
    · exact List.mem_cons_of_mem _ (before.overrun (by omega))

theorem BuffInv.kept (before : BuffInv behind r) (c : Callback Process)
    (taken : step wrapIncrement r c = some r') : BuffInv behind r' := by
  cases c with
  | «open» process moduleGet =>
    by_cases free : r.dev.hasOpen = 0
    · obtain rfl := Option.some.inj ((step_open_free free).symm.trans taken)
      exact before.opened process moduleGet free
    · obtain rfl := Option.some.inj ((step_open_busy free).symm.trans taken)
      exact before
  | read process size buffer faults =>
    obtain ⟨opens, _, dev⟩ := step_read_same taken
    exact before.of_same opens (by rw [dev]) (by rw [dev]) (by rw [dev])
  | release process =>
    obtain rfl := Option.some.inj taken
    exact before.of_same rfl rfl rfl rfl

/-- In every run, `msg_buff` is respected as long as at most 99 opens have succeeded, and
only that long. -/
theorem msg_buff_sound_iff {callbacks : List (Callback Process)}
    (reached : run (step wrapIncrement) (RunState.boot behind) callbacks = some r) :
    MsgBuffSound behind r ↔ r.opens ≤ 99 := by
  have invariant : BuffInv behind r :=
    run_preserves (fun s c t before taken => before.kept c taken) (BuffInv.start behind) reached
  constructor
  · intro sound
    by_contra many
    have written := sound.sizes _ (invariant.overrun (by omega))
    omega
  · exact invariant.sound

/-- Opened and closed again, `n` times. -/
def openAndClose (n : Nat) : List (Callback Unit) :=
  (List.replicate n [.open () true, .release ()]).flatten

theorem msg_buff_sound_iff_twice :
    ∃ r : RunState Unit, run (step wrapIncrement) (RunState.boot fun _ => 255) (openAndClose 2) =
      some r ∧ (MsgBuffSound (fun _ => 255) r ↔ r.opens ≤ 99) :=
  ⟨_, rfl, msg_buff_sound_iff (show run (step wrapIncrement) _ (openAndClose 2) = some _ from rfl)⟩

/-- The hundredth open writes 33 bytes. -/
theorem hundredth_open_overruns :
    ¬ ∀ (behind : Nat → Byte) (callbacks : List (Callback Unit)) (r : RunState Unit),
      run (step wrapIncrement) (RunState.boot behind) callbacks = some r →
        MsgBuffSound behind r := by
  intro claim
  obtain ⟨r, reached, sizes⟩ := Option.map_eq_some_iff.mp
    (show (run (step wrapIncrement) (RunState.boot fun _ => 255 : RunState Unit)
        (openAndClose 100)).map (fun r => r.dev.sprintfSizes.head?) = some (some 33)
      by decide +kernel)
  have sound := claim _ _ r reached
  have written := sound.sizes 33 (List.mem_of_head? sizes)
  exact absurd written (by decide)

end LddLearn.Chardev
