import LddLearn.Chardev.Device

/-!
# What a session reads

`msg_ptr`, the message and the counter are shared by all opens, but only one process
has the device open at a time. With the counter a natural number, memory behind
`msg_buff` free for the message and no faulting `put_user`, the session of the k-th
successful open reads the k-th message in order, whatever the sizes it asks for.
-/

set_option autoImplicit false

namespace LddLearn.Chardev
open LddLearn.Library LddLearn.Library.Run

variable {Process : Type}

/-- `++counter` of a counter that never overflows. -/
def naturalIncrement (counter : Int) : Int := counter + 1

/-- Only the process that has the device open reads and releases it, and its buffers can
be written. -/
def HolderCalls (r : RunState Process) : Callback Process → Prop
  | .open _ _ => True
  | .read process _ _ faults => r.holder = some process ∧ ∀ address, faults address = false
  | .release process => r.holder = some process

/-- The bytes read since the last successful open are the message's first ones. -/
def ReadsMessage (r : RunState Process) : Prop := r.delivered <+: message r.opens

/-- An open is rejected exactly when the device is open, and then changes nothing; a read
returns, and stores one after the other, as many of the remaining bytes as asked for. -/
def CallFacts (r : RunState Process) : Callback Process → Prop
  | .open _ moduleGet =>
    ((deviceOpen naturalIncrement moduleGet r.dev).1 = -EBUSY ↔ r.holder ≠ none) ∧
    (r.holder ≠ none → (deviceOpen naturalIncrement moduleGet r.dev).2 = r.dev)
  | .read _ size buffer faults =>
    let left := (message r.opens).drop r.delivered.length
    ∃ dev, deviceRead faults r.dev size buffer =
      some (((min size left.length : Nat) : Int), storesFrom buffer (left.take size), dev)
  | .release _ => True

/-- `msg_ptr` stands behind the bytes delivered, before the rest of the message. -/
structure SessionInv (r : RunState Process) : Prop where
  counter : r.dev.counter = r.opens
  free : r.holder = none → r.dev.hasOpen = 0
  held : r.holder ≠ none → r.dev.hasOpen = 1 ∧ r.dev.msgPtr = some r.delivered.length ∧
    CString.StringAt 0 r.dev.mem r.delivered.length ((message r.opens).drop r.delivered.length)
  reads : ReadsMessage r

variable {r r' : RunState Process}

theorem SessionInv.start (behind : Nat → Byte) :
    SessionInv (RunState.boot behind : RunState Process) where
  counter := rfl
  free := fun _ => rfl
  held := fun holder => absurd rfl holder
  reads := List.nil_prefix

/-! ## Open -/

theorem SessionInv.opened (before : SessionInv r) (free : r.holder = none) (process : Process)
    (moduleGet : Bool) :
    SessionInv (r.afterOpen process (deviceOpen naturalIncrement moduleGet r.dev).2) := by
  have idle := before.free free
  have next : naturalIncrement r.dev.counter = ((r.opens + 1 : Nat) : Int) := by
    rw [before.counter]
    rfl
  rw [open_free idle, next]
  refine ⟨rfl, fun impossible => absurd impossible (by simp [RunState.afterOpen]), fun _ => ?_,
    List.nil_prefix⟩
  refine ⟨?_, rfl, CString.stringAt_store r.dev.mem 0 (message_clean _)⟩
  change r.dev.hasOpen + 1 = 1
  omega

theorem SessionInv.open_facts (before : SessionInv r) (moduleGet : Bool) :
    ((deviceOpen naturalIncrement moduleGet r.dev).1 = -EBUSY ↔ r.holder ≠ none) ∧
    (r.holder ≠ none → (deviceOpen naturalIncrement moduleGet r.dev).2 = r.dev) := by
  by_cases free : r.holder = none
  · rw [open_free (before.free free)]
    have accepted : NO_ERROR ≠ -EBUSY := by decide
    simp [free, accepted]
  · have busy : r.dev.hasOpen ≠ 0 := by
      rw [(before.held free).1]
      decide
    rw [open_busy busy]
    simp [free]

/-! ## Read -/

theorem SessionInv.read (before : SessionInv r) (holder : r.holder ≠ none) (process : Process)
    (size buffer : Nat) :
    ∃ dev, deviceRead (fun _ => false) r.dev size buffer =
        some (((min size ((message r.opens).drop r.delivered.length).length : Nat) : Int),
          storesFrom buffer (((message r.opens).drop r.delivered.length).take size), dev) ∧
      ∃ after, step naturalIncrement r (.read process size buffer fun _ => false) = some after ∧
        SessionInv after := by
  obtain ⟨idle, pointer, string⟩ := before.held holder
  have outcome : deviceRead (fun _ => false) r.dev size buffer = _ :=
    deviceRead_text pointer string size buffer
  rw [copyOut_writable] at outcome
  refine ⟨_, outcome, _, by rw [step, outcome, Option.map_some], ?_⟩
  dsimp only
  rw [storesFrom_bytes]
  obtain ⟨rest, whole⟩ := before.reads
  rw [← whole, List.drop_left] at string ⊢
  have advanced : (r.delivered ++ rest.take size).length =
      r.delivered.length + min size rest.length := by
    rw [List.length_append, List.length_take]
  have remaining : (r.delivered ++ rest).drop (r.delivered ++ rest.take size).length =
      rest.drop (min size rest.length) := by
    rw [advanced, List.drop_append, List.drop_eq_nil_of_le (by omega), List.nil_append]
    congr 1
    omega
  refine ⟨before.counter, fun none => absurd none holder, fun _ => ⟨idle, ?_, ?_⟩, ?_⟩
  · dsimp only
    rw [advanced]
  · dsimp only
    rw [← whole, remaining, advanced]
    exact string.drop (Nat.min_le_right _ _)
  · unfold ReadsMessage
    dsimp only
    rw [← whole]
    exact List.prefix_append_right_inj r.delivered |>.mpr (List.take_prefix size rest)

/-! ## Runs -/

theorem SessionInv.released (before : SessionInv r) (holder : r.holder ≠ none) :
    SessionInv r.afterRelease where
  counter := before.counter
  free := by
    intro _
    change r.dev.hasOpen - 1 = 0
    rw [(before.held holder).1]
    rfl
  held := fun impossible => absurd rfl impossible
  reads := before.reads

theorem SessionInv.kept (c : Callback Process) (before : SessionInv r) (calls : HolderCalls r c) :
    Leads (step naturalIncrement) SessionInv r c ∧ CallFacts r c := by
  cases c with
  | «open» process moduleGet =>
    refine ⟨?_, before.open_facts moduleGet⟩
    by_cases free : r.holder = none
    · exact ⟨_, step_open_free (before.free free), before.opened free process moduleGet⟩
    · have busy : r.dev.hasOpen ≠ 0 := by
        rw [(before.held free).1]
        decide
      exact ⟨r, step_open_busy busy, before⟩
  | read process size buffer faults =>
    obtain ⟨holder, writable⟩ := calls
    obtain rfl : faults = fun _ => false := funext writable
    have held : r.holder ≠ none := by simp [holder]
    obtain ⟨dev, outcome, after, taken, invariant⟩ := before.read held process size buffer
    exact ⟨⟨after, taken, invariant⟩, dev, outcome⟩
  | release process =>
    have held : r.holder ≠ none := by
      have holder : r.holder = some process := calls
      simp [holder]
    exact ⟨⟨_, rfl, before.released held⟩, trivial⟩

/-- Whoever opens, reads and releases in whatever order, as long as the holder alone reads
and releases: what a session has read is a prefix of its own message, every read returns
as much of the rest as asked for, and rejected opens change nothing. -/
theorem sessions_read_their_messages {behind : Nat → Byte} {callbacks : List (Callback Process)}
    (calls : Each (step naturalIncrement) HolderCalls (RunState.boot behind) callbacks) :
    (∃ r, run (step naturalIncrement) (RunState.boot behind) callbacks = some r ∧
      ReadsMessage r) ∧
    Each (step naturalIncrement) CallFacts (RunState.boot behind) callbacks := by
  have start : SessionInv (RunState.boot behind : RunState Process) := .start behind
  constructor
  · obtain ⟨r, reached, invariant⟩ :=
      run_guarded (fun r c before allowed => (SessionInv.kept c before allowed).1) start calls
    exact ⟨r, reached, invariant.reads⟩
  · exact each_of_guarded
      (fun r c after before allowed taken => (SessionInv.kept c before allowed).1.reached taken)
      (fun r c before allowed => (SessionInv.kept c before allowed).2) start calls

/-- Two processes: a read in two pieces, a rejected open between them, and a second
session. -/
def twoSessions : List (Callback Nat) :=
  [.open 1 true, .read 1 20 1000 fun _ => false, .open 2 true, .read 1 20 2000 fun _ => false,
    .release 1, .open 2 true, .read 2 5 3000 fun _ => false]

theorem sessions_read_their_messages_two :
    (∃ r, run (step naturalIncrement) (RunState.boot fun _ => 255) twoSessions = some r ∧
      ReadsMessage r) ∧
    Each (step naturalIncrement) CallFacts (RunState.boot fun _ => 255) twoSessions := by
  apply sessions_read_their_messages
  refine .cons rfl trivial (.cons rfl ⟨rfl, fun _ => rfl⟩ (.cons rfl trivial ?_))
  refine .cons rfl ⟨rfl, fun _ => rfl⟩ (.cons rfl rfl (.cons rfl trivial ?_))
  exact .cons rfl ⟨rfl, fun _ => rfl⟩ trivial

end LddLearn.Chardev
