import LddLearn.Library.Copy
import LddLearn.Library.Run
import LddLearn.Ssxa.Frame

/-!
# One exchange of test_io with the device

`test_io` copies a request into a worker's buffer byte by byte, stores `TAG_WRITE` in
its tag, rings `w_port` and polls the tag up to five times with `read`; the response
arrives in the same buffer. Every step of the host is one action. The device starts on
a worker once the doorbell was rung and while the tag is `TAG_WRITE`; it reads and writes
single bytes in any order, and stores `TAG_RETURNED` or `TAG_FREE` when it has written
all of them. The doorbell is the board's: the device may serve other workers meanwhile.

`job`, `requestReads`, `entry` and `calls` are bookkeeping of the model. `test_io` uses
worker 0 and the frame of `make_encrykey_msg`.
-/

set_option autoImplicit false

namespace LddLearn.PciFake
open LddLearn.Library LddLearn.Library.Run LddLearn.Ssxa

/-- What the device does with a worker: the bytes of the response it has written so
far, or all of them once the tag is stored. -/
inductive Job where
  | idle
  | working (written : Fin protocolSize → Option (BitVec 8))
  | answered (response : Frame)

/-- What the pointers of a `chip_worker_t` point to. -/
structure Worker where
  buff : Frame
  tag : BitVec 32
  job : Job
  /-- the bytes the device has read where it had not written itself -/
  requestReads : List (Fin protocolSize × BitVec 8)

/-- The next step of `test_io`, inside the functions it calls. -/
inductive TestIo where
  | copyToio (count : Nat)
  | storeTag
  | ring
  | poll (retry : Nat)
  | readTag (retry : Nat)
  | copyFromio (retry count : Nat)
  | done

/-- A call of `read` that has returned, with the caller's buffer before and after. -/
structure ReadCall where
  result : Nat
  before : Frame
  after : Frame

structure State where
  workers : Fin MAX_CHIP_IN_DEVICE → Worker
  rung : Bool
  pc : TestIo
  data : Frame
  /-- `data` when `read` was called -/
  entry : Frame
  calls : List ReadCall

inductive DeviceAction where
  | start
  | readByte (offset : Fin protocolSize)
  | writeByte (offset : Fin protocolSize) (value : BitVec 8)
  | finish (tag : BitVec 32)

inductive Action where
  | host
  | device (index : Fin MAX_CHIP_IN_DEVICE) (action : DeviceAction)

/-- The device idle, whatever the memory holds. -/
def State.start (buffs : Fin MAX_CHIP_IN_DEVICE → Frame) (tags : Fin MAX_CHIP_IN_DEVICE → BitVec 32) :
    State where
  workers := fun index => ⟨buffs index, tags index, .idle, []⟩
  rung := false
  pc := .copyToio 0
  data := fun _ => 0
  entry := fun _ => 0
  calls := []

def State.setWorker (s : State) (index : Fin MAX_CHIP_IN_DEVICE) (worker : Worker) : State :=
  { s with workers := Function.update s.workers index worker }

/-- `read` returns to the loop of `test_io`. -/
def State.returns (s : State) (retry bytes : Nat) : State :=
  { s with
    calls := s.calls ++ [⟨bytes, s.entry, s.data⟩]
    pc := if bytes = 256 then .done else .poll (retry + 1) }

def hostStep (index : Fin MAX_CHIP_IN_DEVICE) (request : Frame) (s : State) : Option State :=
  let worker := s.workers index
  match s.pc with
  | .copyToio count =>
    if inside : count < protocolSize then
      let buff := Function.update worker.buff ⟨count, inside⟩ (request ⟨count, inside⟩)
      some { s.setWorker index { worker with buff := buff } with pc := .copyToio (count + 1) }
    else some { s with pc := .storeTag }
  | .storeTag => some { s.setWorker index { worker with tag := TAG_WRITE } with pc := .ring }
  | .ring => some { s with rung := true, pc := .poll 0 }
  | .poll retry =>
    if retry < 5 then some { s with entry := s.data, pc := .readTag retry }
    else some { s with pc := .done }
  | .readTag retry =>
    if worker.tag = TAG_FREE then some { s with pc := .copyFromio retry 0 }
    else if worker.tag = TAG_RETURNED then some { s with pc := .copyFromio retry 0 }
    else some (s.returns retry 0)
  | .copyFromio retry count =>
    if inside : count < protocolSize then
      let data := Function.update s.data ⟨count, inside⟩ (worker.buff ⟨count, inside⟩)
      some { s with data := data, pc := .copyFromio retry (count + 1) }
    else some (s.returns retry protocolSize)
  | .done => none

def deviceStep (rung : Bool) (worker : Worker) : DeviceAction → Option Worker
  | .start =>
    match worker.job with
    | .working _ => none
    | _ =>
      if rung = true ∧ worker.tag = TAG_WRITE then
        some { worker with job := .working fun _ => none }
      else none
  | .readByte offset =>
    match worker.job with
    | .working written =>
      match written offset with
      | none =>
        some { worker with requestReads := (offset, worker.buff offset) :: worker.requestReads }
      | some _ => some worker
    | _ => none
  | .writeByte offset value =>
    match worker.job with
    | .working written =>
      some { worker with
        buff := Function.update worker.buff offset value
        job := .working (Function.update written offset (some value)) }
    | _ => none
  | .finish tag =>
    match worker.job with
    | .working written =>
      if complete : (tag = TAG_RETURNED ∨ tag = TAG_FREE) ∧ ∀ offset, (written offset).isSome then
        some { worker with
          tag := tag
          job := .answered fun offset => (written offset).get (complete.2 offset) }
      else none
    | _ => none

def step (index : Fin MAX_CHIP_IN_DEVICE) (request : Frame) (s : State) : Action → Option State
  | .host => hostStep index request s
  | .device other action =>
    (deviceStep s.rung (s.workers other) action).map (s.setWorker other)

/-! ## The functions run through -/

/-- `read(worker, buff, 256)` with nothing happening in between. -/
def read (worker : Worker) (buff : Frame) : Nat × Frame :=
  if worker.tag = TAG_FREE then (256, worker.buff)
  else if worker.tag = TAG_RETURNED then (256, worker.buff)
  else (0, buff)

variable {index : Fin MAX_CHIP_IN_DEVICE} {request : Frame} {s t : State}

theorem copyFromio_steps (retry left count : Nat) (calling : s.pc = .copyFromio retry count)
    (distance : count + left = protocolSize)
    (copied : Copy.Copied (s.workers index).buff s.data count) :
    run (step index request) s (List.replicate (left + 1) .host) =
      some (State.returns { s with data := (s.workers index).buff } retry protocolSize) := by
  induction left generalizing s count with
  | zero =>
    have past : ¬ count < protocolSize := by omega
    have done := copied.all past
    rw [List.replicate_succ, run_cons, step, hostStep, calling, ← done]
    simp only [dif_neg past, Option.bind_some, List.replicate_zero, run_nil]
    rfl
  | succ left ih =>
    have inside : count < protocolSize := by omega
    rw [List.replicate_succ, run_cons, step, hostStep, calling]
    simp only [dif_pos inside, Option.bind_some]
    exact ih (count + 1) rfl (by omega) (copied.next inside)

/-- The copy after a tag that says answered. -/
theorem read_copies (retry : Nat)
    (tested : hostStep index request s = some { s with pc := .copyFromio retry 0 }) :
    run (step index request) s (.host :: List.replicate (protocolSize + 1) .host) =
      some (State.returns { s with data := (s.workers index).buff } retry protocolSize) := by
  rw [run_cons, step, tested, Option.bind_some, copyFromio_steps retry protocolSize 0 rfl
    (Nat.zero_add _) (Copy.copied_zero _ _)]
  rfl

/-- The steps of a call of `read` with nothing in between are `read`. -/
theorem read_steps (retry : Nat) (calling : s.pc = .readTag retry) :
    ∃ actions, run (step index request) s actions =
      some (State.returns { s with data := (read (s.workers index) s.data).2 } retry
        (read (s.workers index) s.data).1) := by
  unfold read
  by_cases free : (s.workers index).tag = TAG_FREE
  · refine ⟨_, (read_copies retry ?_).trans ?_⟩
    · rw [hostStep, calling]
      exact if_pos free
    · rw [if_pos free]
      rfl
  · by_cases returned : (s.workers index).tag = TAG_RETURNED
    · refine ⟨_, (read_copies retry ?_).trans ?_⟩
      · rw [hostStep, calling]
        exact (if_neg free).trans (if_pos returned)
      · rw [if_neg free, if_pos returned]
        rfl
    · refine ⟨[.host], ?_⟩
      rw [run_cons, step, hostStep, calling, if_neg free, if_neg returned]
      simp only [if_neg free, if_neg returned, Option.bind_some, run_nil]
      rfl

/-! ## What the tag says about the buffer -/

/-- The worker of a submitted request: until the tag is stored back, the buffer is the
request but for the response bytes already there; then it is the response. -/
def Worker.Serves (request : Frame) (worker : Worker) : Prop :=
  match worker.job with
  | .idle => worker.tag = TAG_WRITE ∧ worker.buff = request
  | .working written => worker.tag = TAG_WRITE ∧
      ∀ offset, worker.buff offset = (written offset).getD (request offset)
  | .answered response => (worker.tag = TAG_RETURNED ∨ worker.tag = TAG_FREE) ∧
      worker.buff = response

/-- A read of a request byte found the request. -/
def Worker.ReadsRequest (request : Frame) (worker : Worker) : Prop :=
  ∀ read ∈ worker.requestReads, read.2 = request read.1

variable {worker worker' : Worker} {rung : Bool} {action : DeviceAction}

theorem answer_tag_ne_write {tag : BitVec 32} (answer : tag = TAG_RETURNED ∨ tag = TAG_FREE) :
    tag ≠ TAG_WRITE := by
  rcases answer with returned | free
  · rw [returned]
    decide
  · rw [free]
    decide

theorem Worker.Serves.answered_of_tag (serves : worker.Serves request)
    (answer : worker.tag = TAG_RETURNED ∨ worker.tag = TAG_FREE) :
    worker.job = .answered worker.buff := by
  have written := answer_tag_ne_write answer
  unfold Worker.Serves at serves
  cases job : worker.job with
  | idle =>
    rw [job] at serves
    exact absurd serves.1 written
  | working bytes =>
    rw [job] at serves
    exact absurd serves.1 written
  | answered response =>
    rw [job] at serves
    rw [serves.2]

/-- Nothing starts before the doorbell. -/
theorem deviceStep_quiet (idle : worker.job = .idle) : deviceStep false worker action = none := by
  cases action <;> simp [deviceStep, idle]

/-- The device leaves an answered worker alone. -/
theorem deviceStep_answered (serves : worker.Serves request) {response : Frame}
    (answered : worker.job = .answered response) : deviceStep rung worker action = none := by
  unfold Worker.Serves at serves
  rw [answered] at serves
  have written := answer_tag_ne_write serves.1
  cases action <;> simp [deviceStep, answered, written]

/-- What a step of the device does: it starts on a submitted request, or it works. -/
theorem deviceStep_cases (taken : deviceStep rung worker action = some worker') :
    (worker.tag = TAG_WRITE ∧ (∀ written, worker.job ≠ .working written) ∧
      worker' = { worker with job := .working fun _ => none }) ∨
    ∃ written, worker.job = .working written ∧
      ((∃ offset, written offset = none ∧ worker' = { worker with
          requestReads := (offset, worker.buff offset) :: worker.requestReads }) ∨
        worker' = worker ∨
        (∃ offset value, worker' = { worker with
          buff := Function.update worker.buff offset value
          job := .working (Function.update written offset (some value)) }) ∨
        ∃ tag response, (tag = TAG_RETURNED ∨ tag = TAG_FREE) ∧
          (∀ offset, written offset = some (response offset)) ∧
          worker' = { worker with tag := tag, job := .answered response }) := by
  cases job : worker.job with
  | working written =>
    refine Or.inr ⟨written, rfl, ?_⟩
    cases action with
    | start => simp [deviceStep, job] at taken
    | readByte offset =>
      simp only [deviceStep, job] at taken
      cases own : written offset with
      | none =>
        rw [own] at taken
        exact Or.inl ⟨offset, own, (Option.some.inj taken).symm⟩
      | some value =>
        rw [own] at taken
        exact Or.inr (Or.inl (Option.some.inj taken).symm)
    | writeByte offset value =>
      simp only [deviceStep, job] at taken
      exact Or.inr (Or.inr (Or.inl ⟨offset, value, (Option.some.inj taken).symm⟩))
    | finish tag =>
      simp only [deviceStep, job] at taken
      by_cases complete : (tag = TAG_RETURNED ∨ tag = TAG_FREE) ∧
          ∀ offset, (written offset).isSome = true
      · rw [dif_pos complete] at taken
        exact Or.inr (Or.inr (Or.inr ⟨tag, _, complete.1,
          fun offset => (Option.some_get (complete.2 offset)).symm, (Option.some.inj taken).symm⟩))
      · rw [dif_neg complete] at taken
        exact absurd taken (by simp)
  | idle | answered =>
    left
    cases action with
    | start =>
      simp only [deviceStep, job] at taken
      by_cases submitted : rung = true ∧ worker.tag = TAG_WRITE
      · rw [if_pos submitted] at taken
        exact ⟨submitted.2, by simp, (Option.some.inj taken).symm⟩
      · rw [if_neg submitted] at taken
        exact absurd taken (by simp)
    | _ => simp [deviceStep, job] at taken

/-- A request nobody works on yet is whole. -/
theorem Worker.Serves.submitted (serves : worker.Serves request) (tag : worker.tag = TAG_WRITE)
    (fresh : ∀ written, worker.job ≠ .working written) : worker.buff = request := by
  unfold Worker.Serves at serves
  cases job : worker.job with
  | idle =>
    rw [job] at serves
    exact serves.2
  | working written => exact absurd job (fresh written)
  | answered response =>
    rw [job, tag] at serves
    exact absurd serves.1 (by decide)

theorem Worker.Serves.working (serves : worker.Serves request)
    {written : Fin protocolSize → Option (BitVec 8)} (job : worker.job = .working written) :
    worker.tag = TAG_WRITE ∧
      ∀ offset, worker.buff offset = (written offset).getD (request offset) := by
  unfold Worker.Serves at serves
  rw [job] at serves
  exact serves

theorem Worker.Serves.device (serves : worker.Serves request)
    (taken : deviceStep rung worker action = some worker') : worker'.Serves request := by
  rcases deviceStep_cases taken with ⟨tag, fresh, rfl⟩ | ⟨written, job, did⟩
  · have whole := serves.submitted tag fresh
    exact ⟨tag, fun offset => congrFun whole offset⟩
  · obtain ⟨tag, overlaid⟩ := serves.working job
    rcases did with ⟨offset, own, rfl⟩ | rfl | ⟨offset, value, rfl⟩ | ⟨stored, response, answer, all, rfl⟩
    · unfold Worker.Serves
      dsimp only
      rw [job]
      exact ⟨tag, overlaid⟩
    · exact serves
    · refine ⟨tag, fun other => ?_⟩
      dsimp only
      by_cases here : other = offset
      · rw [here, Function.update_self, Function.update_self]
        rfl
      · rw [Function.update_of_ne here, Function.update_of_ne here]
        exact overlaid other
    · refine ⟨answer, ?_⟩
      funext offset
      have last := overlaid offset
      rw [all offset] at last
      exact last

theorem Worker.ReadsRequest.device (reads : worker.ReadsRequest request)
    (serves : worker.Serves request) (taken : deviceStep rung worker action = some worker') :
    worker'.ReadsRequest request := by
  rcases deviceStep_cases taken with ⟨tag, fresh, rfl⟩ | ⟨written, job, did⟩
  · exact reads
  · rcases did with ⟨offset, own, rfl⟩ | rfl | ⟨offset, value, rfl⟩ | ⟨stored, response, answer, all, rfl⟩
    · intro read member
      rcases List.mem_cons.mp member with rfl | earlier
      · have found := (serves.working job).2 offset
        rw [own] at found
        exact found
      · exact reads read earlier
    · exact reads
    · exact reads
    · exact reads

/-! ## Both parties -/

/-- A call that returned 256 delivered the answer, any other left the caller's buffer. -/
def CallSound (job : Job) (call : ReadCall) : Prop :=
  call.result = 256 ∧ job = .answered call.after ∨ call.result = 0 ∧ call.after = call.before

/-- What holds of the worker where `test_io` stands. -/
def Phase (index : Fin MAX_CHIP_IN_DEVICE) (request : Frame) (s : State) : Prop :=
  let worker := s.workers index
  match s.pc with
  | .copyToio count =>
    (s.rung = false ∧ worker.job = .idle) ∧ Copy.Copied request worker.buff count
  | .storeTag => (s.rung = false ∧ worker.job = .idle) ∧ worker.buff = request
  | .ring => (s.rung = false ∧ worker.job = .idle) ∧ worker.Serves request
  | .poll _ => worker.Serves request
  | .readTag _ => worker.Serves request ∧ s.data = s.entry
  | .copyFromio _ count => worker.Serves request ∧ worker.job = .answered worker.buff ∧
      Copy.Copied worker.buff s.data count
  | .done => worker.Serves request

structure ExchangeInv (index : Fin MAX_CHIP_IN_DEVICE) (request : Frame) (s : State) : Prop where
  phase : Phase index request s
  reads : (s.workers index).ReadsRequest request
  calls : ∀ call ∈ s.calls, CallSound (s.workers index).job call

theorem exchangeInv_start (index : Fin MAX_CHIP_IN_DEVICE) (request : Frame)
    (buffs : Fin MAX_CHIP_IN_DEVICE → Frame) (tags : Fin MAX_CHIP_IN_DEVICE → BitVec 32) :
    ExchangeInv index request (State.start buffs tags) where
  phase := ⟨⟨rfl, rfl⟩, Copy.copied_zero _ _⟩
  reads := by simp [Worker.ReadsRequest, State.start]
  calls := by simp [State.start]

theorem setWorker_same (s : State) (index : Fin MAX_CHIP_IN_DEVICE) (worker : Worker) :
    (s.setWorker index worker).workers index = worker :=
  Function.update_self ..

theorem setWorker_other {other index : Fin MAX_CHIP_IN_DEVICE} (worker : Worker)
    (different : index ≠ other) : (s.setWorker other worker).workers index = s.workers index :=
  Function.update_of_ne different _ _

/-- Before the doorbell the device is at rest, from then on it serves the request. -/
theorem Phase.quiet_or_serves (phase : Phase index request s) :
    (s.rung = false ∧ (s.workers index).job = .idle) ∨ (s.workers index).Serves request := by
  unfold Phase at phase
  cases pc : s.pc <;> rw [pc] at phase
  case copyToio => exact Or.inl phase.1
  case storeTag => exact Or.inl phase.1
  case ring => exact Or.inl phase.1
  case poll => exact Or.inr phase
  case readTag => exact Or.inr phase.1
  case copyFromio => exact Or.inr phase.1
  case done => exact Or.inr phase

/-- A step of the device on the worker finds it served and not answered. -/
theorem Phase.device_acts (phase : Phase index request s)
    (taken : deviceStep s.rung (s.workers index) action = some worker') :
    (s.workers index).Serves request ∧ ∀ response, (s.workers index).job ≠ .answered response := by
  have serves : (s.workers index).Serves request := by
    rcases phase.quiet_or_serves with ⟨unrung, idle⟩ | serves
    · rw [unrung, deviceStep_quiet idle] at taken
      exact absurd taken (by simp)
    · exact serves
  refine ⟨serves, fun response answered => ?_⟩
  rw [deviceStep_answered serves answered] at taken
  exact absurd taken (by simp)

theorem Phase.device (phase : Phase index request s)
    (taken : deviceStep s.rung (s.workers index) action = some worker') :
    Phase index request (s.setWorker index worker') := by
  obtain ⟨serves, unanswered⟩ := phase.device_acts taken
  have after : ((s.setWorker index worker').workers index).Serves request := by
    rw [setWorker_same]
    exact serves.device taken
  have rung : ¬ (s.rung = false ∧ (s.workers index).job = .idle) := by
    rintro ⟨unrung, idle⟩
    rw [unrung, deviceStep_quiet idle] at taken
    exact absurd taken (by simp)
  unfold Phase at phase ⊢
  rw [show (s.setWorker index worker').pc = s.pc from rfl]
  cases pc : s.pc <;> rw [pc] at phase
  case copyToio => exact absurd phase.1 rung
  case storeTag => exact absurd phase.1 rung
  case ring => exact absurd phase.1 rung
  case poll => exact after
  case readTag => exact ⟨after, phase.2⟩
  case copyFromio => exact absurd phase.2.1 (unanswered _)
  case done => exact after

theorem ExchangeInv.device (before : ExchangeInv index request s)
    (taken : deviceStep s.rung (s.workers index) action = some worker') :
    ExchangeInv index request (s.setWorker index worker') where
  phase := before.phase.device taken
  reads := by
    rw [setWorker_same]
    exact before.reads.device (before.phase.device_acts taken).1 taken
  calls := by
    intro call member
    rcases before.calls call member with ⟨_, answered⟩ | unchanged
    · exact absurd answered ((before.phase.device_acts taken).2 _)
    · exact Or.inr unchanged

/-- Other workers are none of `test_io`'s. -/
theorem ExchangeInv.other (before : ExchangeInv index request s)
    {other : Fin MAX_CHIP_IN_DEVICE} (different : index ≠ other) (worker' : Worker) :
    ExchangeInv index request (s.setWorker other worker') where
  phase := by
    have phase := before.phase
    unfold Phase at phase ⊢
    rw [setWorker_other worker' different]
    exact phase
  reads := by
    rw [setWorker_other worker' different]
    exact before.reads
  calls := by
    rw [setWorker_other worker' different]
    exact before.calls

/-! ## Host -/

/-- A step of the host that returns from no call and leaves the device's side alone. -/
theorem ExchangeInv.goes_on (before : ExchangeInv index request s) (phase : Phase index request t)
    (here : t.workers index = worker) (job : worker.job = (s.workers index).job)
    (reads : worker.requestReads = (s.workers index).requestReads)
    (calls : t.calls = s.calls) : ExchangeInv index request t where
  phase := phase
  reads := by
    unfold Worker.ReadsRequest
    rw [here, reads]
    exact before.reads
  calls := by
    rw [calls, here, job]
    exact before.calls

/-- `read` returns. -/
theorem ExchangeInv.returns (before : ExchangeInv index request s)
    (serves : (s.workers index).Serves request) (retry bytes : Nat)
    (sound : CallSound (s.workers index).job ⟨bytes, s.entry, s.data⟩) :
    ExchangeInv index request (s.returns retry bytes) where
  phase := by
    unfold Phase State.returns
    dsimp only
    by_cases all : bytes = 256
    · rw [if_pos all]
      exact serves
    · rw [if_neg all]
      exact serves
  reads := before.reads
  calls := by
    intro call member
    rcases List.mem_append.mp member with earlier | last
    · exact before.calls call earlier
    · obtain rfl := List.mem_singleton.mp last
      exact sound

theorem ExchangeInv.copyToio (before : ExchangeInv index request s) {count : Nat}
    (pc : s.pc = .copyToio count) (taken : hostStep index request s = some t) :
    ExchangeInv index request t := by
  have phase := before.phase
  unfold Phase at phase
  unfold hostStep at taken
  rw [pc] at phase taken
  obtain ⟨quiet, copied⟩ := phase
  by_cases inside : count < protocolSize
  · obtain rfl := Option.some.inj ((dif_pos inside).symm.trans taken)
    refine before.goes_on ?_ (setWorker_same s index _) rfl rfl rfl
    unfold Phase
    dsimp only
    rw [setWorker_same]
    exact ⟨quiet, copied.next inside⟩
  · obtain rfl := Option.some.inj ((dif_neg inside).symm.trans taken)
    exact before.goes_on ⟨quiet, copied.all inside⟩ rfl rfl rfl rfl

theorem ExchangeInv.storeTag (before : ExchangeInv index request s) (pc : s.pc = .storeTag)
    (taken : hostStep index request s = some t) : ExchangeInv index request t := by
  have phase := before.phase
  unfold Phase at phase
  unfold hostStep at taken
  rw [pc] at phase taken
  obtain ⟨⟨unrung, idle⟩, whole⟩ := phase
  obtain rfl := Option.some.inj taken
  refine before.goes_on ?_ (setWorker_same s index _) rfl rfl rfl
  unfold Phase Worker.Serves
  dsimp only
  rw [setWorker_same]
  dsimp only
  rw [idle]
  exact ⟨⟨unrung, rfl⟩, rfl, whole⟩

/-- The tag read decides: answered, and the buffer is the answer, or nothing is copied. -/
theorem ExchangeInv.readTag (before : ExchangeInv index request s) {retry : Nat}
    (pc : s.pc = .readTag retry) (taken : hostStep index request s = some t) :
    ExchangeInv index request t := by
  have phase := before.phase
  unfold Phase at phase
  unfold hostStep at taken
  rw [pc] at phase taken
  obtain ⟨serves, unchanged⟩ := phase
  by_cases free : (s.workers index).tag = TAG_FREE
  · obtain rfl := Option.some.inj ((if_pos free).symm.trans taken)
    have answered := serves.answered_of_tag (Or.inr free)
    exact before.goes_on ⟨serves, answered, Copy.copied_zero _ _⟩ rfl rfl rfl rfl
  · have next := (if_neg free).symm.trans taken
    by_cases returned : (s.workers index).tag = TAG_RETURNED
    · obtain rfl := Option.some.inj ((if_pos returned).symm.trans next)
      have answered := serves.answered_of_tag (Or.inl returned)
      exact before.goes_on ⟨serves, answered, Copy.copied_zero _ _⟩ rfl rfl rfl rfl
    · obtain rfl := Option.some.inj ((if_neg returned).symm.trans next)
      exact before.returns serves retry 0 (Or.inr ⟨rfl, unchanged⟩)

theorem ExchangeInv.copyFromio (before : ExchangeInv index request s) {retry count : Nat}
    (pc : s.pc = .copyFromio retry count) (taken : hostStep index request s = some t) :
    ExchangeInv index request t := by
  have phase := before.phase
  unfold Phase at phase
  unfold hostStep at taken
  rw [pc] at phase taken
  obtain ⟨serves, answered, copied⟩ := phase
  by_cases inside : count < protocolSize
  · obtain rfl := Option.some.inj ((dif_pos inside).symm.trans taken)
    exact before.goes_on ⟨serves, answered, copied.next inside⟩ rfl rfl rfl rfl
  · obtain rfl := Option.some.inj ((dif_neg inside).symm.trans taken)
    refine before.returns serves retry protocolSize (Or.inl ⟨rfl, ?_⟩)
    rw [copied.all inside]
    exact answered

theorem ExchangeInv.host (before : ExchangeInv index request s)
    (taken : hostStep index request s = some t) : ExchangeInv index request t := by
  cases pc : s.pc with
  | copyToio count => exact before.copyToio pc taken
  | storeTag => exact before.storeTag pc taken
  | readTag retry => exact before.readTag pc taken
  | copyFromio retry count => exact before.copyFromio pc taken
  | ring =>
    have phase := before.phase
    unfold Phase at phase
    unfold hostStep at taken
    rw [pc] at phase taken
    obtain rfl := Option.some.inj taken
    exact before.goes_on phase.2 rfl rfl rfl rfl
  | poll retry =>
    have phase := before.phase
    unfold Phase at phase
    unfold hostStep at taken
    rw [pc] at phase taken
    by_cases again : retry < 5
    · obtain rfl := Option.some.inj ((if_pos again).symm.trans taken)
      exact before.goes_on ⟨phase, rfl⟩ rfl rfl rfl rfl
    · obtain rfl := Option.some.inj ((if_neg again).symm.trans taken)
      exact before.goes_on phase rfl rfl rfl rfl
  | done =>
    unfold hostStep at taken
    rw [pc] at taken
    exact absurd taken (by simp)

/-! ## Runs -/

theorem ExchangeInv.kept (before : ExchangeInv index request s) (a : Action)
    (taken : step index request s a = some t) : ExchangeInv index request t := by
  cases a with
  | host => exact before.host taken
  | device other action =>
    obtain ⟨worker', acted, rfl⟩ := Option.map_eq_some_iff.mp taken
    by_cases same : index = other
    · subst same
      exact before.device acted
    · exact before.other same worker'

/-- In every state reached, whatever the interleaving: under a working device lies the whole
request but for the response bytes it wrote itself, and every request byte it read was the
request's; every call of `read` returned 256 and the answer, or 0 and an unchanged buffer. -/
theorem test_io_exchange_sound {buffs : Fin MAX_CHIP_IN_DEVICE → Frame}
    {tags : Fin MAX_CHIP_IN_DEVICE → BitVec 32} {actions : List Action}
    (reached : run (step index request) (State.start buffs tags) actions = some s) :
    (∀ written, (s.workers index).job = .working written →
      ∀ offset, (s.workers index).buff offset = (written offset).getD (request offset)) ∧
    (∀ read ∈ (s.workers index).requestReads, read.2 = request read.1) ∧
    ∀ call ∈ s.calls,
      call.result = 256 ∧ (s.workers index).job = .answered call.after ∨
      call.result = 0 ∧ call.after = call.before := by
  have invariant : ExchangeInv index request s :=
    run_preserves (fun s a t before taken => before.kept a taken)
      (exchangeInv_start index request buffs tags) reached
  refine ⟨?_, invariant.reads, invariant.calls⟩
  intro written working
  rcases invariant.phase.quiet_or_serves with ⟨_, idle⟩ | serves
  · rw [idle] at working
    exact absurd working (by simp)
  · exact (serves.working working).2

def firstWorker : Fin MAX_CHIP_IN_DEVICE := ⟨0, by decide⟩

/-- The device starts and writes half of its response before the first poll and answers
behind it. -/
def answerBetweenPolls : List Action :=
  let write := fun index : Fin protocolSize =>
    Action.device firstWorker (.writeByte index (BitVec.ofNat 8 (index.val + 1)))
  let writes := (List.finRange protocolSize).map write
  List.replicate 259 .host ++
    [.device firstWorker .start, .device firstWorker (.readByte ⟨4, by decide⟩)] ++
    writes.take 128 ++ [.host, .host] ++ writes.drop 128 ++
    [.device firstWorker (.finish TAG_RETURNED)] ++ List.replicate 259 .host

theorem test_io_exchange_sound_between_polls :
    ∃ request s, makeEncrykeyMsg .littleEndian 0 = some request ∧
      run (step firstWorker request) (State.start (fun _ _ => 0) fun _ => TAG_FREE)
        answerBetweenPolls = some s ∧
      s.calls.map (fun call => (call.result, call.after ⟨9, by decide⟩)) = [(0, 0), (256, 10)] ∧
      (∀ written, (s.workers firstWorker).job = .working written →
        ∀ offset, (s.workers firstWorker).buff offset = (written offset).getD (request offset)) ∧
      (∀ read ∈ (s.workers firstWorker).requestReads, read.2 = request read.1) ∧
      ∀ call ∈ s.calls,
        call.result = 256 ∧ (s.workers firstWorker).job = .answered call.after ∨
        call.result = 0 ∧ call.after = call.before := by
  have observed : ((makeEncrykeyMsg .littleEndian 0).bind fun request =>
      run (step firstWorker request) (State.start (fun _ _ => 0) fun _ => TAG_FREE)
        answerBetweenPolls).map
      (fun s => s.calls.map fun call => (call.result, call.after ⟨9, by decide⟩)) =
        some [(0, 0), (256, 10)] := by
    decide +kernel
  obtain ⟨s, ran, calls⟩ := Option.map_eq_some_iff.mp observed
  obtain ⟨request, made, reached⟩ := Option.bind_eq_some_iff.mp ran
  exact ⟨request, s, made, reached, calls, test_io_exchange_sound reached⟩

end LddLearn.PciFake
