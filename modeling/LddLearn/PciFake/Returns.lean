import LddLearn.PciFake.Handshake

/-!
# test_io returns

Whatever the device does, `test_io` gets through its loops: 257 steps copy the request, and five
calls of `read` follow at most, of which only one copies. It comes back in one of two ways: the
last call has found the answer and `data` is the device's response, or all five have found none
and `data` is as `memset` left it.
-/

set_option autoImplicit false

namespace LddLearn.PciFake
open LddLearn.Library LddLearn.Library.Run LddLearn.Ssxa

variable {index : Fin MAX_CHIP_IN_DEVICE} {request : Frame} {s t : State}

/-! ## Steps -/

/-- The most steps `test_io` has left. -/
def TestIo.stepsLeft : TestIo → Nat
  | .copyToio count => protocolSize - count + 270
  | .storeTag => 269
  | .ring => 268
  | .poll retry => 2 * (5 - retry) + 257
  | .readTag retry => 2 * (4 - retry) + 258
  | .copyFromio _ count => protocolSize - count + 1
  | .done => 0

def hostSteps : Action → Nat
  | .host => 1
  | .device _ _ => 0

theorem returns_takes (retry bytes : Nat) :
    (s.returns retry bytes).pc.stepsLeft ≤ 2 * (4 - retry) + 257 := by
  unfold State.returns
  dsimp only
  split
  · exact Nat.zero_le _
  · simp only [TestIo.stepsLeft]
    omega

/-- What a step of `test_io` can do. -/
inductive HostStep (index : Fin MAX_CHIP_IN_DEVICE) (request : Frame) (s : State) : State → Prop
  | copiedIn {count : Nat} (pc : s.pc = .copyToio count) (inside : count < protocolSize)
      (worker : Worker) :
      HostStep index request s { s.setWorker index worker with pc := .copyToio (count + 1) }
  | copiedAll {count : Nat} (pc : s.pc = .copyToio count) :
      HostStep index request s { s with pc := .storeTag }
  | stored (pc : s.pc = .storeTag) (worker : Worker) :
      HostStep index request s { s.setWorker index worker with pc := .ring }
  | rang (pc : s.pc = .ring) : HostStep index request s { s with rung := true, pc := .poll 0 }
  | called {retry : Nat} (pc : s.pc = .poll retry) (again : retry < 5) :
      HostStep index request s { s with entry := s.data, pc := .readTag retry }
  | spent {retry : Nat} (pc : s.pc = .poll retry) (most : 5 ≤ retry) :
      HostStep index request s { s with pc := .done }
  | found {retry : Nat} (pc : s.pc = .readTag retry) :
      HostStep index request s { s with pc := .copyFromio retry 0 }
  | missed {retry : Nat} (pc : s.pc = .readTag retry) : HostStep index request s (s.returns retry 0)
  | copiedOut {retry count : Nat} (pc : s.pc = .copyFromio retry count)
      (inside : count < protocolSize) (data : Frame) :
      HostStep index request s { s with data := data, pc := .copyFromio retry (count + 1) }
  | answered {retry count : Nat} (pc : s.pc = .copyFromio retry count) :
      HostStep index request s (s.returns retry protocolSize)

theorem host_step (taken : hostStep index request s = some t) : HostStep index request s t := by
  unfold hostStep at taken
  cases pc : s.pc with
  | copyToio count =>
    simp only [pc] at taken
    split at taken
    next inside => exact Option.some.inj taken ▸ .copiedIn pc inside _
    next => exact Option.some.inj taken ▸ .copiedAll pc
  | storeTag =>
    simp only [pc] at taken
    exact Option.some.inj taken ▸ .stored pc _
  | ring =>
    simp only [pc] at taken
    exact Option.some.inj taken ▸ .rang pc
  | poll retry =>
    simp only [pc] at taken
    split at taken
    next again => exact Option.some.inj taken ▸ .called pc again
    next most => exact Option.some.inj taken ▸ .spent pc (Nat.le_of_not_lt most)
  | readTag retry =>
    simp only [pc] at taken
    split at taken
    · exact Option.some.inj taken ▸ .found pc
    · split at taken
      · exact Option.some.inj taken ▸ .found pc
      · exact Option.some.inj taken ▸ .missed pc
  | copyFromio retry count =>
    simp only [pc] at taken
    split at taken
    next inside => exact Option.some.inj taken ▸ .copiedOut pc inside _
    next => exact Option.some.inj taken ▸ .answered pc
  | done =>
    simp only [pc] at taken
    exact absurd taken (by simp)

theorem host_takes (taken : hostStep index request s = some t) :
    t.pc.stepsLeft + 1 ≤ s.pc.stepsLeft := by
  cases host_step taken with
  | copiedIn pc inside | copiedOut pc inside =>
    simp only [pc, TestIo.stepsLeft]
    omega
  | copiedAll pc | stored pc | rang pc | called pc | spent pc =>
    simp only [pc, TestIo.stepsLeft]
    omega
  | found pc =>
    simp only [pc, TestIo.stepsLeft, protocolSize]
    omega
  | @missed retry pc =>
    have left := returns_takes (s := s) retry 0
    simp only [pc, TestIo.stepsLeft] at left ⊢
    omega
  | answered pc => simp [pc, TestIo.stepsLeft, State.returns, protocolSize]

/-- The device's steps are none of `test_io`'s. -/
theorem step_takes (a : Action) (taken : step index request s a = some t) :
    t.pc.stepsLeft + hostSteps a ≤ s.pc.stepsLeft := by
  cases a with
  | host => exact host_takes taken
  | device other action =>
    obtain ⟨worker, _, rfl⟩ := Option.map_eq_some_iff.mp taken
    exact le_refl _

/-- Nothing the device does keeps `test_io` from going on. -/
theorem host_goes_on (running : s.pc ≠ .done) : ∃ t, step index request s .host = some t := by
  unfold step hostStep
  cases pc : s.pc with
  | done => exact absurd pc running
  | storeTag | ring => exact ⟨_, rfl⟩
  | copyToio | poll | copyFromio =>
    simp only
    split
    · exact ⟨_, rfl⟩
    · exact ⟨_, rfl⟩
  | readTag retry =>
    simp only
    split
    · exact ⟨_, rfl⟩
    · split
      · exact ⟨_, rfl⟩
      · exact ⟨_, rfl⟩

/-! ## The two ways back -/

/-- Every call so far has returned 0. -/
def NoneAnswered (calls : List ReadCall) : Prop := ∀ call ∈ calls, call.result = 0

/-- The last of at most five calls has returned 256, and `data` is the device's response. -/
def Answered (index : Fin MAX_CHIP_IN_DEVICE) (s : State) : Prop :=
  ∃ earlier last, s.calls = earlier ++ [last] ∧ earlier.length < 5 ∧ NoneAnswered earlier ∧
    last.result = 256 ∧ (s.workers index).job = .answered s.data

/-- Five calls have returned 0, and `data` is still zero. -/
def GaveUp (s : State) : Prop :=
  s.calls.length = 5 ∧ NoneAnswered s.calls ∧ s.data = fun _ => 0

/-- No call has returned 256, `count` have returned 0 and `data` has not been written. -/
structure Waiting (calls : List ReadCall) (data : Frame) (count : Nat) : Prop where
  made : calls.length = count
  none : NoneAnswered calls
  clear : data = fun _ => 0

/-- The calls made where `test_io` stands. -/
def Progress (s : State) : Prop :=
  match s.pc with
  | .copyToio _ => Waiting s.calls s.data 0
  | .storeTag => Waiting s.calls s.data 0
  | .ring => Waiting s.calls s.data 0
  | .poll retry => retry ≤ 5 ∧ Waiting s.calls s.data retry
  | .readTag retry => retry < 5 ∧ Waiting s.calls s.data retry
  | .copyFromio retry _ => retry < 5 ∧ s.calls.length = retry ∧ NoneAnswered s.calls
  | .done => GaveUp s ∨ ∃ earlier last, s.calls = earlier ++ [last] ∧ earlier.length < 5 ∧
      NoneAnswered earlier ∧ last.result = 256 ∧ last.after = s.data

theorem progress_start (buffs : Fin MAX_CHIP_IN_DEVICE → Frame)
    (tags : Fin MAX_CHIP_IN_DEVICE → BitVec 32) : Progress (State.start buffs tags) :=
  ⟨rfl, fun _ none => absurd none List.not_mem_nil, rfl⟩

/-- A call that found no answer. -/
theorem Waiting.returns {retry : Nat} (waiting : Waiting s.calls s.data retry) :
    Waiting (s.returns retry 0).calls (s.returns retry 0).data (retry + 1) where
  made := by
    rw [State.returns, List.length_append, waiting.made]
    rfl
  none := by
    intro call member
    rcases List.mem_append.mp member with earlier | last
    · exact waiting.none call earlier
    · rw [List.mem_singleton.mp last]
  clear := waiting.clear

theorem Progress.host (before : Progress s) (taken : hostStep index request s = some t) :
    Progress t := by
  unfold Progress at before
  cases host_step taken with
  | copiedIn pc | copiedAll pc | stored pc =>
    simp only [pc] at before
    exact ⟨before.made, before.none, before.clear⟩
  | rang pc =>
    simp only [pc] at before
    exact ⟨Nat.zero_le 5, before.made, before.none, before.clear⟩
  | called pc again =>
    simp only [pc] at before
    obtain ⟨_, waiting⟩ := before
    exact ⟨again, waiting.made, waiting.none, waiting.clear⟩
  | @spent retry pc spent =>
    simp only [pc] at before
    obtain ⟨most, waiting⟩ := before
    have five : retry = 5 := by omega
    exact Or.inl ⟨five ▸ waiting.made, waiting.none, waiting.clear⟩
  | found pc =>
    simp only [pc] at before
    obtain ⟨again, waiting⟩ := before
    exact ⟨again, waiting.made, waiting.none⟩
  | missed pc =>
    simp only [pc] at before
    obtain ⟨again, waiting⟩ := before
    exact ⟨again, waiting.returns⟩
  | copiedOut pc =>
    simp only [pc] at before
    exact before
  | answered pc =>
    simp only [pc] at before
    obtain ⟨again, calls, none⟩ := before
    exact Or.inr ⟨s.calls, ⟨protocolSize, s.entry, s.data⟩, rfl, calls ▸ again, none, rfl, rfl⟩

theorem Progress.kept (before : Progress s) (a : Action) (taken : step index request s a = some t) :
    Progress t := by
  cases a with
  | host => exact before.host taken
  | device other action =>
    obtain ⟨worker, _, rfl⟩ := Option.map_eq_some_iff.mp taken
    exact before

/-- Where it has returned, it has done so in one of the two ways. -/
theorem Progress.returned (progress : Progress s) (exchange : ExchangeInv index request s)
    (done : s.pc = .done) : Answered index s ∨ GaveUp s := by
  unfold Progress at progress
  rw [done] at progress
  rcases progress with gaveUp | ⟨earlier, last, calls, few, none, result, data⟩
  · exact Or.inr gaveUp
  · refine Or.inl ⟨earlier, last, calls, few, none, result, ?_⟩
    have sound : CallSound (s.workers index).job last := exchange.calls last (by simp [calls])
    rcases sound with ⟨_, answered⟩ | ⟨zero, _⟩
    · rw [answered, data]
    · exact absurd (result.symm.trans zero) (by decide)

/-- What lies under a device at work. -/
theorem ExchangeInv.serves (exchange : ExchangeInv index request s)
    {written : Fin protocolSize → Option (BitVec 8)}
    (working : (s.workers index).job = .working written) (offset : Fin protocolSize) :
    (s.workers index).buff offset = (written offset).getD (request offset) := by
  rcases exchange.phase.quiet_or_serves with ⟨_, idle⟩ | serves
  · rw [idle] at working
    exact absurd working (by simp)
  · exact (serves.working working).2 offset

/-! ## Runs -/

section Runs
variable {buffs : Fin MAX_CHIP_IN_DEVICE → Frame} {tags : Fin MAX_CHIP_IN_DEVICE → BitVec 32}
  {actions : List Action}

theorem exchangeInv_of_run (reached : run (step index request) (State.start buffs tags) actions = some s) :
    ExchangeInv index request s :=
  run_preserves (fun _ a _ before taken => before.kept a taken)
    (exchangeInv_start index request buffs tags) reached

theorem returned_of_run (reached : run (step index request) (State.start buffs tags) actions = some s)
    (done : s.pc = .done) : Answered index s ∨ GaveUp s := by
  have progress : Progress s :=
    run_preserves (fun _ a _ before taken => before.kept a taken) (progress_start buffs tags) reached
  exact progress.returned (exchangeInv_of_run reached) done

theorem hostSteps_le (reached : run (step index request) (State.start buffs tags) actions = some s) :
    (actions.map hostSteps).sum ≤ 526 := by
  have measured := run_measured (fun s => s.pc.stepsLeft) hostSteps
    (fun _ a _ _ taken => step_takes a taken) (each_trivial _ actions) reached
  have start : (State.start buffs tags).pc.stepsLeft = 526 := rfl
  omega

/-- Whatever the device does in between, `test_io` takes 526 steps at most, none of them is
ever held up, and it ends with the device's response or with five fruitless calls. -/
theorem test_io_returns
    (reached : run (step index request) (State.start buffs tags) actions = some s) :
    (actions.map hostSteps).sum ≤ 526 ∧
      (s.pc ≠ .done → ∃ t, step index request s .host = some t) ∧
      (s.pc = .done → Answered index s ∨ GaveUp s) :=
  ⟨hostSteps_le reached, host_goes_on, returned_of_run reached⟩

end Runs

/-- The device answers between two polls. -/
theorem test_io_returns_between_polls :
    ∃ request s, makeEncrykeyMsg .littleEndian 0 = some request ∧
      run (step firstWorker request) (State.start (fun _ _ => 0) fun _ => TAG_FREE)
        answerBetweenPolls = some s ∧
      (answerBetweenPolls.map hostSteps).sum ≤ 526 ∧
      (s.pc ≠ .done → ∃ t, step firstWorker request s .host = some t) ∧
      (s.pc = .done → Answered firstWorker s ∨ GaveUp s) := by
  have ran : ((makeEncrykeyMsg .littleEndian 0).bind fun request =>
      run (step firstWorker request) (State.start (fun _ _ => 0) fun _ => TAG_FREE)
        answerBetweenPolls).isSome = true := by
    decide +kernel
  obtain ⟨s, both⟩ := Option.isSome_iff_exists.mp ran
  obtain ⟨request, made, reached⟩ := Option.bind_eq_some_iff.mp both
  exact ⟨request, s, made, reached, test_io_returns reached⟩

end LddLearn.PciFake
